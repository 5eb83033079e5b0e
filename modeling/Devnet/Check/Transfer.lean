import Devnet.Client

namespace Devnet

def longestPeriod : Duration := .ofSeconds (30 * 365 * 86400)

/-- How many timers may run out in one turn; a turn ends when time has to pass. Only between two
turns is the deadline looked at. -/
def turnLimit : Nat := 128

namespace WaitPolicy

/-- Polls are at least a millisecond apart. -/
def period (p : WaitPolicy) : Duration :=
  ⟨max (min p.pollInterval.nanoseconds longestPeriod.nanoseconds) 1000000⟩

/-- The time at which a wait ends that begins at `start`. -/
def deadline (p : WaitPolicy) (start : Nat) : Nat := start + p.timeout.millisecondsUp

/-- The time that poll number `k` is due, if the first one is due at `start`. -/
def due (p : WaitPolicy) (start k : Nat) : Nat :=
  start + (Duration.mk (k * p.period.nanoseconds)).millisecondsUp

/-- As many polls as are due by the deadline. -/
def pollLimit (p : WaitPolicy) : Nat :=
  p.timeout.millisecondsUp * 1000000 / p.period.nanoseconds + 1

end WaitPolicy

inductive Poll (σ : Type) where
  /-- The wait is over, at the deadline and without an answer. -/
  | late (s : Session σ)
  /-- `left` timers may still run out in this turn. -/
  | answered (result : Except CheckError (Option Receipt)) (left : Nat) (s : Session σ)

/-- The timers that are left to the turn when one of them has run out at `due`; a turn begins if
time passes until then, or if the last one is used up. -/
def leftInTurn (now due left : Nat) : Nat :=
  if now < due ∨ left = 0 then turnLimit - 1 else left - 1

/-- Asks for the receipt at the time `due`, or now if that has passed. -/
def pollReceipt {σ : Type} (client : Client σ) (hash : TxHash) (deadline due left : Nat)
    (s : Session σ) : Poll σ :=
  let start := max due s.now
  if deadline < start then .late (s.movedTo deadline)
  else if left = 0 ∧ due ≤ s.now ∧ deadline ≤ s.now then .late s
  else
    let (r, memory) := client.reply (.receipt hash) s.memory
    if deadline < start + r.delay then
      .late ⟨memory, deadline, s.calls.push ⟨start, .receipt hash, none⟩, s.log⟩
    else
      let left := leftInTurn s.now due left
      .answered r.result (if r.delay = 0 then left else turnLimit - 1)
        ⟨memory, start + r.delay, s.calls.push ⟨start, .receipt hash, some r.result⟩,
          s.log ++ r.log.toArray⟩

/-- The remaining polls, from number `k` on. -/
def pollFrom {σ : Type} (client : Client σ) (hash : TxHash) (policy : WaitPolicy) (start : Nat) :
    (fuel k left : Nat) → Session σ → Except CheckError Receipt × Session σ
  | 0, _, _, s =>
    (.error (.receiptTimeout hash policy.timeout), s.movedTo (policy.deadline start))
  | fuel + 1, k, left, s =>
    match pollReceipt client hash (policy.deadline start) (policy.due start k) left s with
    | .late s => (.error (.receiptTimeout hash policy.timeout), s)
    | .answered (.error e) _ s => (.error e, s)
    | .answered (.ok (some receipt)) _ s => (.ok receipt, s)
    | .answered (.ok none) left s =>
      pollFrom client hash policy start fuel (k + 1) left
        (s.noted ⟨.debug, .checks, "receipt not available yet", [("tx_hash", hash.text)]⟩)

/-- Polls until there is a receipt, an error or no time left: each poll starts when it is due, or as
soon as the one before has ended. -/
def waitForReceipt {σ : Type} (client : Client σ) (hash : TxHash) (policy : WaitPolicy) :
    Action σ Receipt :=
  ExceptT.mk fun s => pollFrom client hash policy s.now policy.pollLimit 0 turnLimit s

/-- A plain transfer succeeds, uses exactly the gas of one, and carries the value asked for. The
rules are tried in this order. -/
def judgeTransfer (intent : TransferIntent) (receipt : Receipt) (record : TransactionRecord) :
    Except CheckError TransferOutcome :=
  let hash := receipt.hash
  match receipt.status, receipt.gasUsed with
  | none, _ => .error (.missingReceiptField hash .status)
  | some status, gasUsed =>
    if status ≠ 1 then .error (.transferReverted hash)
    else
      match gasUsed with
      | none => .error (.missingReceiptField hash .gasUsed)
      | some gasUsed =>
        if gasUsed ≠ plainTransferGas then
          .error (.unexpectedGasUsed hash plainTransferGas gasUsed)
        else if record.value ≠ intent.value then
          .error (.valueMismatch hash intent.value record.value)
        else .ok ⟨intent, hash, gasUsed, receipt.blockNumber⟩

def checkTransfer {σ : Type} (client : Client σ) (intent : TransferIntent) (policy : WaitPolicy) :
    Action σ TransferOutcome := do
  let hash ← Action.ask client (.send intent)
  Action.note ⟨.debug, .checks, "waiting for transfer receipt", [("tx_hash", hash.text)]⟩
  let receipt ← waitForReceipt client hash policy
  match ← Action.ask client (.transaction hash) with
  | none => throw (.transactionNotFound hash)
  | some record =>
    let outcome ← judgeTransfer intent receipt record
    Action.note ⟨.info, .checks, "transfer included",
      intent.fields hash ++ [("gas_used", toString outcome.gasUsed.toNat)]⟩
    return outcome

end Devnet
