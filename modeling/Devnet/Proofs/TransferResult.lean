import Devnet.Check.Transfer
import Devnet.Proofs.WaitResult

namespace Devnet

variable {σ : Type}

/-- What a check says about the transaction that is fetched back for a receipt. -/
def judgeFetched (intent : TransferIntent) (hash : TxHash) (receipt : Receipt) :
    Except CheckError (Option TransactionRecord) → Except CheckError TransferOutcome
  | .error e => .error e
  | .ok none => .error (.transactionNotFound hash)
  | .ok (some record) => judgeTransfer intent receipt record

/-- How a transfer check ends that begins in a given memory at a given time: its result, the
memory and the time then, and the calls it has made. -/
inductive TransferEnds (client : Client σ) (intent : TransferIntent) (policy : WaitPolicy)
    (memory : σ) (start : Nat) :
    Except CheckError TransferOutcome → σ → Nat → List Call → Prop where
  | notSent {r : Reply TxHash} {m : σ} {e : CheckError}
      (sent : client.reply (.send intent) memory = (r, m)) (result : r.result = .error e) :
      TransferEnds client intent policy memory start (.error e) m (start + r.delay)
        [⟨start, .send intent, some (.error e)⟩]
  | notReceived {r : Reply TxHash} {m n : σ} {hash : TxHash} {e : CheckError} {now : Nat}
      {made : List Call} (sent : client.reply (.send intent) memory = (r, m))
      (result : r.result = .ok hash)
      (wait : (policy.wait client hash m (start + r.delay)).Ends policy.timeout (.error e) n now
        made) :
      TransferEnds client intent policy memory start (.error e) n now
        (⟨start, .send intent, some (.ok hash)⟩ :: made)
  | received {r : Reply TxHash} {m n o : σ} {hash : TxHash} {receipt : Receipt} {now : Nat}
      {made : List Call} {f : Reply (Option TransactionRecord)}
      (sent : client.reply (.send intent) memory = (r, m)) (result : r.result = .ok hash)
      (wait : (policy.wait client hash m (start + r.delay)).Ends policy.timeout (.ok receipt) n now
        made)
      (fetched : client.reply (.transaction hash) n = (f, o)) :
      TransferEnds client intent policy memory start (judgeFetched intent hash receipt f.result) o
        (now + f.delay)
        (⟨start, .send intent, some (.ok hash)⟩ ::
          (made ++ [⟨now, .transaction hash, some f.result⟩]))

/-- The part of a transfer check that begins with a receipt. -/
def checkFetched (client : Client σ) (intent : TransferIntent) (hash : TxHash)
    (receipt : Receipt) : Action σ TransferOutcome := do
  match ← Action.ask client (.transaction hash) with
  | none => throw (.transactionNotFound hash)
  | some record =>
    let outcome ← judgeTransfer intent receipt record
    Action.note ⟨.info, .checks, "transfer included",
      intent.fields hash ++ [("gas_used", toString outcome.gasUsed.toNat)]⟩
    return outcome

theorem checkTransfer_eq (client : Client σ) (intent : TransferIntent) (policy : WaitPolicy) :
    checkTransfer client intent policy = (do
      let hash ← Action.ask client (.send intent)
      Action.note ⟨.debug, .checks, "waiting for transfer receipt", [("tx_hash", hash.text)]⟩
      let receipt ← waitForReceipt client hash policy
      checkFetched client intent hash receipt) := by
  unfold checkTransfer checkFetched
  refine bind_congr fun hash => bind_congr fun _ => bind_congr fun receipt =>
    bind_congr fun record => ?_
  cases record <;> rfl

theorem checkFetched_run {client : Client σ} {s : Session σ} {memory m : σ} {now : Nat}
    {calls : List Call} {hash : TxHash} {f : Reply (Option TransactionRecord)}
    (hs : s.Stands memory now calls) (hfetch : client.reply (.transaction hash) memory = (f, m))
    (intent : TransferIntent) (receipt : Receipt) :
    ∃ t, (checkFetched client intent hash receipt).run s =
        (judgeFetched intent hash receipt f.result, t) ∧
      t.Stands m (now + f.delay) (calls ++ [⟨now, .transaction hash, some f.result⟩]) := by
  obtain ⟨t, ht, hstands⟩ := Action.run_ask_of_reply hs hfetch
  cases hrecord : f.result with
  | error e =>
    rw [hrecord] at ht hstands
    exact ⟨t, run_bind_of_error ht, hstands⟩
  | ok record =>
    rw [hrecord] at ht hstands
    rw [checkFetched, run_bind_of_ok ht]
    cases record with
    | none => exact ⟨t, rfl, hstands⟩
    | some record =>
      have hjudge := Action.run_lift (judgeTransfer intent receipt record) t
      dsimp only [judgeFetched]
      cases hjudged : judgeTransfer intent receipt record with
      | error e =>
        rw [hjudged] at hjudge
        exact ⟨t, run_bind_of_error hjudge, hstands⟩
      | ok outcome =>
        rw [hjudged] at hjudge
        exact ⟨_, run_bind_of_ok hjudge, hstands.noted _⟩

/-- A transfer check ends as the client's replies say. -/
theorem checkTransfer_ends (client : Client σ) (intent : TransferIntent) (policy : WaitPolicy)
    (s : Session σ) :
    ∃ memory now made,
      TransferEnds client intent policy s.memory s.now
        ((checkTransfer client intent policy).run s).1 memory now made ∧
      ((checkTransfer client intent policy).run s).2.Stands memory now
        (s.calls.toList ++ made) := by
  obtain ⟨r, m, hsent⟩ : ∃ r m, client.reply (.send intent) s.memory = (r, m) := ⟨_, _, rfl⟩
  obtain ⟨t, ht, hstands⟩ := Action.run_ask_of_reply (Session.stands_self s) hsent
  rw [checkTransfer_eq]
  cases hresult : r.result with
  | error e =>
    rw [hresult] at ht hstands
    rw [run_bind_of_error ht]
    exact ⟨_, _, _, .notSent hsent hresult, hstands⟩
  | ok hash =>
    rw [hresult] at ht hstands
    rw [run_bind_of_ok ht, run_bind_of_ok (Action.run_note _ t)]
    obtain ⟨hmemory, hnow, hcalls⟩ := hstands.noted
      ⟨.debug, .checks, "waiting for transfer receipt", [("tx_hash", hash.text)]⟩
    obtain ⟨n, now, made, hwait, hwaited⟩ := waitForReceipt_ends client hash policy
      (t.noted ⟨.debug, .checks, "waiting for transfer receipt", [("tx_hash", hash.text)]⟩)
    rw [hmemory, hnow] at hwait
    rw [hcalls, List.append_assoc, List.singleton_append] at hwaited
    rcases hrun : (waitForReceipt client hash policy).run
      (t.noted ⟨.debug, .checks, "waiting for transfer receipt", [("tx_hash", hash.text)]⟩)
      with ⟨e | receipt, u⟩
    · rw [hrun] at hwait hwaited
      rw [run_bind_of_error hrun]
      exact ⟨_, _, _, .notReceived hsent hresult hwait, hwaited⟩
    · rw [hrun] at hwait hwaited
      rw [run_bind_of_ok hrun]
      obtain ⟨f, o, hfetch⟩ : ∃ f o, client.reply (.transaction hash) n = (f, o) := ⟨_, _, rfl⟩
      obtain ⟨v, hv, hfetched⟩ := checkFetched_run hwaited hfetch intent receipt
      rw [hv]
      rw [List.append_assoc, List.cons_append] at hfetched
      exact ⟨_, _, _, .received hsent hresult hwait hfetch, hfetched⟩

end Devnet
