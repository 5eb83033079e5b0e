import Devnet.Check.Identity
import Devnet.Check.Transfer
import Devnet.Report

namespace Devnet

structure Suite where
  target : Target
  fixture : Fixture
  wait : WaitPolicy
  transferValue : Word256

namespace Suite

def plain (target : Target) (fixture : Fixture) (wait : WaitPolicy) : Suite :=
  ⟨target, fixture, wait, Defaults.transferValue⟩

/-- The transfer from the account of a role to the other account. -/
def intent (s : Suite) (sender : Role) : TransferIntent :=
  let receiver := match sender with
    | .whale => Role.user
    | .user => Role.whale
  ⟨s.fixture.address sender, s.fixture.address receiver, s.transferValue⟩

/-- The transfers to run, each with the role of its sender. -/
def intents (s : Suite) : List (Role × TransferIntent) :=
  [(.whale, s.intent .whale), (.user, s.intent .user)]

def record {σ α : Type} (name : String) (detail : α → Detail) (check : Action σ α) :
    StateM (Session σ) Outcome := fun session =>
  match check.run session with
  | (.ok v, session) => (⟨name, .ok (detail v)⟩, session)
  | (.error e, session) =>
    (⟨name, .error e⟩, session.noted ⟨.error, .suite, e.message,
      [("check", Text.quoted name), ("category", e.failureClass.name)]⟩)

def transferName (sender : Role) : String := s!"{sender.name} transfer"

/-- The chain identity, the accounts, and a transfer in each direction. -/
def run {σ : Type} (s : Suite) (client : Client σ) : StateM (Session σ) Report := do
  modify (·.noted ⟨.info, .suite, "running conformance checks",
    [("network", s.target.network.name)]⟩)
  let identity ← record "chain identity" .chainId (checkChainIdentity client s.target)
  let accounts ← record "wallet accounts" .accounts (checkWalletAccounts client s.fixture)
  let transfers ← s.intents.mapM fun (sender, intent) =>
    record (transferName sender) .transfer (checkTransfer client intent s.wait)
  return ⟨s.target.network, identity :: accounts :: transfers⟩

end Suite

end Devnet
