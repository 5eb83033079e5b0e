import Devnet.Check.Identity
import Devnet.Check.Transfer

namespace Devnet

/-- Steps of a conversation that fail in words. -/
abbrev Assertion (σ α : Type) := ExceptT String (StateM (Session σ)) α

namespace Assertion

def ofAction {σ α : Type} (words : CheckError → String) (check : Action σ α) : Assertion σ α :=
  ExceptT.mk fun s =>
    let (r, s) := check.run s
    (r.mapError words, s)

def chainIdentity {σ : Type} (client : Client σ) (target : Target) : Assertion σ Unit := do
  let _ ← ofAction (fun e => s!"chain identity check failed: {e.message}")
    (checkChainIdentity client target)

def walletAccounts {σ : Type} (client : Client σ) (fixture : Fixture) : Assertion σ Unit := do
  let _ ← ofAction (fun e => s!"wallet account check failed: {e.message}")
    (checkWalletAccounts client fixture)

def transfer {σ : Type} (client : Client σ) (intent : TransferIntent) (policy : WaitPolicy) :
    Assertion σ TransferOutcome :=
  ofAction (fun e => s!"transfer check failed ({e.failureClass.name}): {e.message}")
    (checkTransfer client intent policy)

def balanceFailure (account : Address) (expected actual : Word256) : String :=
  "assertion `left == right` failed: unexpected balance of " ++ account.text ++
    s!"\n  left: {actual.toNat}\n right: {expected.toNat}"

def balance {σ : Type} (client : Client σ) (account : Address) (expected : Word256) :
    Assertion σ Unit := do
  let actual ← ofAction (fun e => s!"failed to fetch balance of {account.text}: {e.message}")
    (Action.ask client (.balance account))
  if actual = expected then return ()
  else throw (balanceFailure account expected actual)

end Assertion

end Devnet
