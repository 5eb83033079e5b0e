import Devnet.Check.Error
import Devnet.Defaults

namespace Devnet

/-- What a check that passed has seen. -/
inductive Detail where
  | chainId (n : UInt64)
  | accounts (listed : List Address)
  | transfer (outcome : TransferOutcome)
  deriving DecidableEq

def Detail.text : Detail → String
  | chainId n => s!"chain id {n.toNat}"
  | accounts listed => s!"{listed.length} accounts"
  | transfer outcome => s!"tx {outcome.hash.text}, gas used {outcome.gasUsed.toNat}"

structure Outcome where
  name : String
  result : Except CheckError Detail

def Outcome.passed (o : Outcome) : Bool :=
  match o.result with
  | .ok _ => true
  | .error _ => false

def Outcome.text (o : Outcome) : String :=
  match o.result with
  | .ok detail => s!"  ok   {o.name}: {detail.text}"
  | .error e => s!"  FAIL {o.name}: {e.message} ({e.failureClass.name})"

/-- The outcomes of a run in the order of its checks. -/
structure Report where
  network : KnownNetwork
  outcomes : List Outcome

namespace Report

def failures (r : Report) : List Outcome := r.outcomes.filter (!·.passed)

def isSuccess (r : Report) : Bool := r.outcomes.all (·.passed)

def summary (r : Report) : String :=
  let failed := r.failures.length
  s!"{r.outcomes.length - failed} passed, {failed} failed"

/-- A heading, a line for every outcome, and the summary. -/
def text (r : Report) : String :=
  "\n".intercalate (s!"network {r.network.name}:" :: r.outcomes.map (·.text) ++ [r.summary])

theorem isSuccess_iff (r : Report) : r.isSuccess = true ↔ r.failures = [] := by
  simp [isSuccess, failures, List.all_eq_true, List.filter_eq_nil_iff]

end Report

end Devnet
