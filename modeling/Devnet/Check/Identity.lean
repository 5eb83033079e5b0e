import Devnet.Client
import Devnet.Config.Target
import Devnet.Defaults

namespace Devnet

def checkChainId (origin : ChainIdOrigin) (expected actual : UInt64) : Except CheckError Unit :=
  if actual = expected then .ok () else .error (.chainIdMismatch origin expected actual)

/-- Gives the chain id that the node reports; it is not asked if the declared one is wrong. -/
def checkChainIdentity {σ : Type} (client : Client σ) (target : Target) : Action σ UInt64 := do
  checkChainId .declared target.expectedChainId target.chainId
  let live ← Action.ask client .chainId
  checkChainId .live target.expectedChainId live
  Action.note ⟨.info, .checks, "chain identity matches",
    [("network", target.network.name), ("chain_id", toString live.toNat)]⟩
  return live

/-- The first account, counted from `index`, whose address is another than the listed one. -/
def firstMismatch : (index : Nat) → List Account → List Address → Option CheckError
  | index, account :: accounts, actual :: listed =>
    if account.address = actual then firstMismatch (index + 1) accounts listed
    else some (.accountMismatch index account.role account.address actual)
  | _, _, _ => none

def checkProvisioning (fixture : Fixture) (listed : List Address) : Except CheckError Unit :=
  if listed.length ≠ Defaults.accountCount then
    .error (.accountCountMismatch Defaults.accountCount listed.length)
  else
    match firstMismatch 0 fixture.accounts listed with
    | none => .ok ()
    | some e => .error e

def checkWalletAccounts {σ : Type} (client : Client σ) (fixture : Fixture) :
    Action σ (List Address) := do
  let listed ← Action.ask client .accounts
  checkProvisioning fixture listed
  Action.note ⟨.info, .checks, "wallet accounts match",
    [("whale", (fixture.account .whale).text), ("user", (fixture.account .user).text)]⟩
  return listed

end Devnet
