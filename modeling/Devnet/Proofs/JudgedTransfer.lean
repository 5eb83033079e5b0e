import Devnet.Proofs.Conformance
import Devnet.Proofs.FirstDeviation

namespace Devnet

/-- The transaction that a result is about. -/
def namedHash? : Except CheckError TransferOutcome → Option TxHash
  | .ok outcome => some outcome.hash
  | .error (.receiptTimeout hash _) => some hash
  | .error (.transactionNotFound hash) => some hash
  | .error (.transferReverted hash) => some hash
  | .error (.missingReceiptField hash _) => some hash
  | .error (.unexpectedGasUsed hash _ _) => some hash
  | .error (.valueMismatch hash _ _) => some hash
  | .error _ => none

/-- The result that a transfer check comes to with its calls by a time, and the transaction that it
names. -/
inductive NamesTransfer (intent : TransferIntent) (policy : WaitPolicy) :
    List Call → Except CheckError TransferOutcome → Nat → Prop where
  /-- An error of the client's, passed on. -/
  | answered {calls : List Call} {e : CheckError} (now : Nat) (answer : AnswersAtLast calls e) :
      NamesTransfer intent policy calls (.error e) now
  | noReceipt {hash : TxHash} {polls : List Call} (start begun : Nat)
      (missing : NoReceipt policy hash begun polls) :
      NamesTransfer intent policy (⟨start, .send intent, some (.ok hash)⟩ :: polls)
        (.error (.receiptTimeout hash policy.timeout)) (policy.deadline begun)
  | notKnown {hash : TxHash} {polls : List Call} {receipt : Receipt} {begun : Nat}
      (start last fetched now : Nat)
      (polled : PollsFrom hash begun polls ⟨last, .receipt hash, some (.ok (some receipt))⟩)
      (inTime : fetched ≤ policy.deadline begun) :
      NamesTransfer intent policy
        (⟨start, .send intent, some (.ok hash)⟩ ::
          (polls ++ [⟨last, .receipt hash, some (.ok (some receipt))⟩,
            ⟨fetched, .transaction hash, some (.ok none)⟩]))
        (.error (.transactionNotFound hash)) now
  /-- What is judged is named as its receipt tells. -/
  | judged {hash : TxHash} {polls : List Call} {receipt : Receipt} {record : TransactionRecord}
      {r : Except CheckError TransferOutcome} {begun : Nat} (start last fetched now : Nat)
      (polled : PollsFrom hash begun polls ⟨last, .receipt hash, some (.ok (some receipt))⟩)
      (inTime : fetched ≤ policy.deadline begun) (named : namedHash? r = some receipt.hash) :
      NamesTransfer intent policy
        (⟨start, .send intent, some (.ok hash)⟩ ::
          (polls ++ [⟨last, .receipt hash, some (.ok (some receipt))⟩,
            ⟨fetched, .transaction hash, some (.ok (some record))⟩])) r now

theorem TransferVerdict.namedHash {intent : TransferIntent} {receipt : Receipt}
    {record : TransactionRecord} {r : Except CheckError TransferOutcome}
    (h : TransferVerdict intent receipt record r) : namedHash? r = some receipt.hash := by
  cases h <;> rfl

theorem TransferFinding.names {intent : TransferIntent} {policy : WaitPolicy} {calls : List Call}
    {r : Except CheckError TransferOutcome} {now : Nat}
    (h : TransferFinding intent policy calls r now) : NamesTransfer intent policy calls r now := by
  cases h with
  | answered _ answer => exact .answered now answer
  | noReceipt start begun missing => exact .noReceipt start begun missing
  | notKnown start last fetched _ polled inTime =>
    exact .notKnown start last fetched now polled inTime
  | judged start last fetched _ polled inTime verdict =>
    exact .judged start last fetched now polled inTime verdict.namedHash

/-- A receipt in the answer is that of the transaction that is asked for. -/
def Call.TellsAsked : Call → Prop
  | ⟨_, .receipt hash, some (.ok (some receipt))⟩ => receipt.hash = hash
  | _ => True

/-- With such receipts, a result is the answer to the last call or names what was submitted. -/
theorem NamesTransfer.names_submitted {intent : TransferIntent} {policy : WaitPolicy}
    {calls : List Call} {r : Except CheckError TransferOutcome} {now : Nat}
    (h : NamesTransfer intent policy calls r now) (hcalls : ∀ c ∈ calls, c.TellsAsked) :
    (∃ e, r = .error e ∧ AnswersAtLast calls e) ∨
    ∃ start hash rest, calls = ⟨start, .send intent, some (.ok hash)⟩ :: rest ∧
      namedHash? r = some hash := by
  cases h with
  | @answered _ e _ answer => exact .inl ⟨e, rfl, answer⟩
  | @noReceipt hash polls start => exact .inr ⟨start, hash, polls, rfl, rfl⟩
  | notKnown start => exact .inr ⟨start, _, _, rfl, rfl⟩
  | @judged hash polls receipt record _ _ start last _ _ _ _ named =>
    have hhash : receipt.hash = hash := by
      apply hcalls ⟨last, .receipt hash, some (.ok (some receipt))⟩
      simp
    rw [hhash] at named
    exact .inr ⟨start, hash, _, rfl, named⟩

variable {σ : Type}

/-- For every client, transfer and policy, from every state of a conversation: a result that the
check itself comes to names the submitted transaction as long as there is no receipt to judge, and
with one the transaction that the receipt tells. -/
theorem checkTransfer_names_receipt (client : Client σ) (intent : TransferIntent)
    (policy : WaitPolicy) (s : Session σ) :
    ∃ calls,
      ((checkTransfer client intent policy).run s).2.calls.toList = s.calls.toList ++ calls ∧
      client.Hears s.moment calls ((checkTransfer client intent policy).run s).2.moment ∧
      NamesTransfer intent policy calls ((checkTransfer client intent policy).run s).1
        ((checkTransfer client intent policy).run s).2.now := by
  obtain ⟨memory, now, made, hends, hstands⟩ := checkTransfer_ends client intent policy s
  refine ⟨made, hstands.calls, ?_, ?_⟩
  · rw [hstands.moment]
    exact hends.hears
  · rw [hstands.now]
    exact hends.protocol.finding.names

namespace Script

/-- A network that answers for transaction 7 with the receipt of transaction 8. -/
def straying : Script := taking [⟨.ok (some { plainReceipt with hash := ⟨8⟩ }), 0⟩]

/-- A transfer passes under another hash than it was submitted with. -/
theorem checkTransfer_straying :
    let run := (checkTransfer client ⟨⟨0⟩, ⟨1⟩, Defaults.transferValue⟩
      ⟨.ofMilliseconds 128, .ofMilliseconds 1⟩).run (Session.start straying)
    run.1 = .ok ⟨⟨⟨0⟩, ⟨1⟩, Defaults.transferValue⟩, ⟨8⟩, 21000, none⟩ ∧
      run.2.calls.toList.head? =
        some ⟨0, .send ⟨⟨0⟩, ⟨1⟩, Defaults.transferValue⟩, some (.ok ⟨7⟩)⟩ := by
  exact ⟨rfl, rfl⟩

end Script

end Devnet
