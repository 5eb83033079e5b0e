import Devnet.Proofs.TransferResult
import Devnet.Suite
import Mathlib.Data.List.Basic

namespace Devnet

variable {σ α β : Type}

/-- Asked at the moment `a`, the client answers `v`, and then it is `b`. -/
structure Client.Answers (client : Client σ) (q : Query) (v : q.Answer) (a b : Moment σ) :
    Prop where
  result : (client.reply q a.memory).1.result = .ok v
  next : b = ⟨(client.reply q a.memory).2, a.now + (client.reply q a.memory).1.delay⟩

/-- The check passes with `v`, and then it is `b`. -/
structure Action.Passes (check : Action σ α) (s : Session σ) (v : α) (b : Moment σ) : Prop where
  result : (check.run s).1 = .ok v
  moment : (check.run s).2.moment = b

theorem Client.answers_iff {client : Client σ} {q : Query} {a b : Moment σ} {r : Reply q.Answer}
    {m : σ} {v : q.Answer} (h : client.reply q a.memory = (r, m)) :
    client.Answers q v a b ↔ r.result = .ok v ∧ b = ⟨m, a.now + r.delay⟩ := by
  constructor
  · rintro ⟨hresult, hnext⟩
    rw [h] at hresult hnext
    exact ⟨hresult, hnext⟩
  · rintro ⟨hresult, hnext⟩
    exact ⟨by rw [h, hresult], by rw [h, hnext]⟩

namespace Action

variable {s : Session σ} {v : β} {b : Moment σ}

theorem passes_iff_of_run {x : Action σ β} {r : Except CheckError β} {a : Moment σ}
    (hresult : (x.run s).1 = r) (hmoment : (x.run s).2.moment = a) :
    x.Passes s v b ↔ r = .ok v ∧ a = b := by
  subst hresult hmoment
  exact ⟨fun h => ⟨h.result, h.moment⟩, fun h => ⟨h.1, h.2⟩⟩

theorem bind_passes_iff {x : Action σ α} {f : α → Action σ β} :
    (x >>= f).Passes s v b ↔ ∃ u t, x.run s = (.ok u, t) ∧ (f u).Passes t v b := by
  constructor
  · rintro ⟨hresult, hmoment⟩
    rw [run_bind] at hresult hmoment
    rcases hx : x.run s with ⟨e | u, t⟩
    · rw [hx] at hresult
      cases hresult
    · rw [hx] at hresult hmoment
      exact ⟨u, t, rfl, hresult, hmoment⟩
  · rintro ⟨u, t, hx, hresult, hmoment⟩
    have hrun := run_bind_of_ok (f := f) hx
    exact ⟨by rw [hrun, hresult], by rw [hrun, hmoment]⟩

theorem ask_bind_passes_iff {client : Client σ} {q : Query} {f : q.Answer → Action σ β} :
    (ask client q >>= f).Passes s v b ↔
      ∃ u t, client.Answers q u s.moment t.moment ∧ t = (s.ask client q).2 ∧
        (f u).Passes t v b := by
  rw [bind_passes_iff]
  constructor
  · rintro ⟨u, t, hask, hrest⟩
    rw [run_ask] at hask
    have hresult : (client.reply q s.memory).1.result = .ok u := congrArg Prod.fst hask
    obtain rfl : (s.ask client q).2 = t := congrArg Prod.snd hask
    exact ⟨u, _, ⟨hresult, rfl⟩, rfl, hrest⟩
  · rintro ⟨u, t, hanswers, rfl, hrest⟩
    exact ⟨u, _, Prod.ext hanswers.result rfl, hrest⟩

theorem lift_bind_passes_iff {r : Except CheckError α} {f : α → Action σ β} :
    ((liftM r : Action σ α) >>= f).Passes s v b ↔ ∃ u, r = .ok u ∧ (f u).Passes s v b := by
  rw [bind_passes_iff]
  constructor
  · rintro ⟨u, t, hlift, hrest⟩
    rw [run_lift, Prod.mk.injEq] at hlift
    obtain ⟨hr, rfl⟩ := hlift
    exact ⟨u, hr, hrest⟩
  · rintro ⟨u, rfl, hrest⟩
    exact ⟨u, s, run_lift _ s, hrest⟩

theorem note_bind_passes_iff {l : LogLine} {f : Unit → Action σ β} :
    (note l >>= f).Passes s v b ↔ (f ()).Passes (s.noted l) v b := by
  rw [bind_passes_iff]
  constructor
  · rintro ⟨u, t, hnote, hrest⟩
    rw [run_note, Prod.mk.injEq] at hnote
    obtain ⟨-, rfl⟩ := hnote
    exact hrest
  · intro hrest
    exact ⟨(), _, run_note l s, hrest⟩

theorem pure_passes_iff {u : β} : (pure u : Action σ β).Passes s v b ↔ u = v ∧ s.moment = b := by
  constructor
  · rintro ⟨hresult, hmoment⟩
    exact ⟨Except.ok.inj hresult, hmoment⟩
  · rintro ⟨rfl, rfl⟩
    exact ⟨rfl, rfl⟩

end Action

theorem checkChainId_ok_iff {origin : ChainIdOrigin} {expected actual : UInt64} {u : Unit} :
    checkChainId origin expected actual = .ok u ↔ actual = expected := by
  unfold checkChainId
  split <;> simp_all

/-- The chain identity passes exactly if the network's id is declared and reported. -/
theorem checkChainIdentity_passes_iff {client : Client σ} {target : Target} {s : Session σ}
    {v : UInt64} {b : Moment σ} :
    (checkChainIdentity client target).Passes s v b ↔
      target.chainId = target.expectedChainId ∧ v = target.expectedChainId ∧
        client.Answers .chainId target.expectedChainId s.moment b := by
  simp only [checkChainIdentity, Action.lift_bind_passes_iff,
    Action.ask_bind_passes_iff (q := .chainId), Action.note_bind_passes_iff,
    Action.pure_passes_iff, checkChainId_ok_iff, Session.moment_noted]
  constructor
  · rintro ⟨-, hdeclared, live, t, hanswers, -, -, rfl, rfl, rfl⟩
    exact ⟨hdeclared, rfl, hanswers⟩
  · rintro ⟨hdeclared, rfl, hanswers⟩
    exact ⟨(), hdeclared, _, _, ⟨hanswers.result, rfl⟩, rfl, (), rfl, rfl, hanswers.next.symm⟩

theorem checkProvisioning_ok_iff {fixture : Fixture} {listed : List Address} {u : Unit} :
    checkProvisioning fixture listed = .ok u ↔ listed = [fixture.whale, fixture.user] := by
  unfold checkProvisioning
  constructor
  · intro h
    split at h
    · cases h
    · rename_i hlength
      obtain ⟨x, y, rfl⟩ := List.length_eq_two.mp (not_not.mp hlength)
      by_cases hx : fixture.whale = x
      · by_cases hy : fixture.user = y
        · rw [hx, hy]
        · simp [firstMismatch, Fixture.accounts, Fixture.account, Fixture.address, hx, hy] at h
      · simp [firstMismatch, Fixture.accounts, Fixture.account, Fixture.address, hx] at h
  · rintro rfl
    simp [firstMismatch, Fixture.accounts, Fixture.account, Fixture.address, Defaults.accountCount]

/-- The accounts pass exactly if the network lists the fixture's two in their order. -/
theorem checkWalletAccounts_passes_iff {client : Client σ} {fixture : Fixture} {s : Session σ}
    {v : List Address} {b : Moment σ} :
    (checkWalletAccounts client fixture).Passes s v b ↔
      v = [fixture.whale, fixture.user] ∧
        client.Answers .accounts [fixture.whale, fixture.user] s.moment b := by
  simp only [checkWalletAccounts, Action.lift_bind_passes_iff,
    Action.ask_bind_passes_iff (q := .accounts), Action.note_bind_passes_iff,
    Action.pure_passes_iff, checkProvisioning_ok_iff, Session.moment_noted]
  constructor
  · rintro ⟨listed, t, hanswers, -, -, rfl, rfl, rfl⟩
    exact ⟨rfl, hanswers⟩
  · rintro ⟨rfl, hanswers⟩
    exact ⟨_, _, ⟨hanswers.result, rfl⟩, rfl, (), rfl, rfl, hanswers.next.symm⟩

namespace Wait

variable (w : Wait σ)

/-- Poll number `n` is the first that does not find nothing; it brings a receipt in time. -/
structure Finds (n : Nat) (receipt : Receipt) : Prop where
  pending : w.Pending n
  result : (w.reply n).result = .ok (some receipt)
  inTime : w.pollEnd n ≤ w.deadline

/-- Of the polls up to number `n` fewer than fill a turn begin at the deadline. -/
def InTurn (n : Nat) : Prop := turnLimit ≤ n + 1 → w.pollStart (n + 1 - turnLimit) < w.deadline

/-- The moment at which poll number `n` has been answered. -/
def after (n : Nat) : Moment σ := ⟨(w.before (n + 1)).1, w.pollEnd n⟩

theorem Finds.reached {w : Wait σ} {n : Nat} {receipt : Receipt} (h : w.Finds n receipt)
    (hturn : w.InTurn n) : w.Reached n :=
  ⟨h.pending, (w.pollStart_le_pollEnd n).trans h.inTime, hturn⟩

theorem Finds.result_ne_none {w : Wait σ} {n : Nat} {receipt : Receipt} (h : w.Finds n receipt) :
    (w.reply n).result ≠ .ok none := by
  rw [h.result]
  intro heq
  cases heq

theorem Finds.unique {w : Wait σ} {m n : Nat} {r s : Receipt} (hm : w.Finds m r)
    (hn : w.Finds n s) : m = n :=
  Nat.le_antisymm (hm.pending.le hn.result_ne_none) (hn.pending.le hm.result_ne_none)

/-- A wait that gives a receipt has found it in a poll that is made. -/
theorem Ends.finds {w : Wait σ} {timeout : Duration} {receipt : Receipt} {memory : σ} {now : Nat}
    {made : List Call} (h : w.Ends timeout (.ok receipt) memory now made) :
    ∃ n, w.Finds n receipt ∧ w.InTurn n ∧ w.after n = ⟨memory, now⟩ := by
  cases h with
  | @found n _ reached inTime result =>
    exact ⟨n, ⟨reached.pending, result, inTime⟩, reached.turn, rfl⟩

/-- A receipt that is found in a poll that is made is what the wait gives. -/
theorem Ends.of_finds {w : Wait σ} {timeout : Duration} {r : Except CheckError Receipt}
    {memory : σ} {now n : Nat} {made : List Call} {receipt : Receipt}
    (h : w.Ends timeout r memory now made) (hfinds : w.Finds n receipt) (hturn : w.InTurn n) :
    r = .ok receipt ∧ w.after n = ⟨memory, now⟩ := by
  have hreached := hfinds.reached hturn
  cases h with
  | @found m _ reached inTime result =>
    obtain rfl : m = n := Finds.unique ⟨reached.pending, result, inTime⟩ hfinds
    have heq := result.symm.trans hfinds.result
    injection heq with heq
    injection heq with heq
    exact ⟨by rw [heq], rfl⟩
  | @failed m e reached _ result =>
    obtain rfl : m = n := by
      apply Nat.le_antisymm
      · exact reached.pending.le hfinds.result_ne_none
      · exact hfinds.pending.le (by simp [result])
    have heq := result.symm.trans hfinds.result
    cases heq
  | @dropped m reached late =>
    have hin := hfinds.inTime
    rcases Nat.lt_or_eq_of_le (reached.pending.le hfinds.result_ne_none) with hlt | rfl
    · have hend := (w.pollEnd_le_pollStart hlt).trans hreached.start_le
      omega
    · omega
  | @timedOut m reached _ result last =>
    have hle := (reached.pending.succ result).le hfinds.result_ne_none
    exact absurd (hreached.of_le hle) last

end Wait

theorem judgeTransfer_ok_iff {intent : TransferIntent} {receipt : Receipt}
    {record : TransactionRecord} {outcome : TransferOutcome} :
    judgeTransfer intent receipt record = .ok outcome ↔
      receipt.status = some 1 ∧ receipt.gasUsed = some 21000 ∧ record.value = intent.value ∧
        outcome = ⟨intent, receipt.hash, 21000, receipt.blockNumber⟩ := by
  obtain ⟨hash, status, gasUsed, blockNumber⟩ := receipt
  have hplain : plainTransferGas = 21000 := rfl
  unfold judgeTransfer
  rw [hplain]
  cases status with
  | none => simp
  | some status =>
    by_cases hstatus : status = 1
    · cases gasUsed with
      | none => simp [hstatus]
      | some gasUsed =>
        by_cases hgas : gasUsed = 21000#256
        · by_cases hvalue : record.value = intent.value
          · simp [hstatus, hgas, hvalue, eq_comm]
          · simp [hstatus, hgas, hvalue]
        · simp [hstatus, hgas]
    · simp [hstatus]

/-- What a transfer check asks of a network from one moment to another: it accepts the transfer,
shows a receipt of a plain transfer in a poll that counts, and gives the transaction back with its
value. -/
inductive TransferConforms (client : Client σ)
    (wait : TxHash → Moment σ → Wait σ) (Counts : Wait σ → Nat → Prop) (intent : TransferIntent)
    (a b : Moment σ) : TransferOutcome → Prop where
  | included {hash : TxHash} {sent : Moment σ} {n : Nat} {receipt : Receipt}
      {record : TransactionRecord} (accepted : client.Answers (.send intent) hash a sent)
      (found : (wait hash sent).Finds n receipt) (counts : Counts (wait hash sent) n)
      (status : receipt.status = some 1) (gasUsed : receipt.gasUsed = some 21000)
      (fetched : client.Answers (.transaction hash) (some record) ((wait hash sent).after n) b)
      (value : record.value = intent.value) :
      TransferConforms client wait Counts intent a b
        ⟨intent, receipt.hash, 21000, receipt.blockNumber⟩

theorem judgeFetched_ok_iff {intent : TransferIntent} {hash : TxHash} {receipt : Receipt}
    {fetched : Except CheckError (Option TransactionRecord)} {outcome : TransferOutcome} :
    judgeFetched intent hash receipt fetched = .ok outcome ↔
      ∃ record, fetched = .ok (some record) ∧
        judgeTransfer intent receipt record = .ok outcome := by
  match fetched with
  | .error e => simp [judgeFetched]
  | .ok none => simp [judgeFetched]
  | .ok (some record) => simp [judgeFetched]

/-- A transfer check passes exactly if the network conforms. -/
theorem checkTransfer_passes_iff {client : Client σ} {intent : TransferIntent}
    {policy : WaitPolicy} {s : Session σ} {outcome : TransferOutcome} {b : Moment σ} :
    (checkTransfer client intent policy).Passes s outcome b ↔
      TransferConforms client (fun hash a => policy.wait client hash a.memory a.now) Wait.InTurn
        intent s.moment b outcome := by
  obtain ⟨memory, now, made, hends, hstands⟩ := checkTransfer_ends client intent policy s
  rw [Action.passes_iff_of_run rfl hstands.moment]
  generalize ((checkTransfer client intent policy).run s).1 = result at hends
  constructor
  · rintro ⟨rfl, rfl⟩
    generalize hjudged : Except.ok outcome = result at hends
    cases hends with
    | notSent => cases hjudged
    | notReceived => cases hjudged
    | received sent result wait fetched =>
      obtain ⟨record, hrecord, hjudge⟩ := judgeFetched_ok_iff.mp hjudged.symm
      obtain ⟨hstatus, hgas, hvalue, rfl⟩ := judgeTransfer_ok_iff.mp hjudge
      obtain ⟨k, hfinds, hturn, hafter⟩ := wait.finds
      refine .included ((Client.answers_iff sent).mpr ⟨result, rfl⟩) hfinds hturn hstatus hgas
        ?_ hvalue
      change client.Answers _ _ (Wait.after (policy.wait _ _ _ (s.now + _)) _) _
      rw [hafter]
      exact (Client.answers_iff fetched).mpr ⟨hrecord, rfl⟩
  · rintro ⟨accepted, found, counts, status, gasUsed, fetched, value⟩
    -- the client replies in one way only, so the other ends are ruled out
    cases hends with
    | notSent sent result =>
      have hresult := ((Client.answers_iff sent).mp accepted).1
      cases result.symm.trans hresult
    | notReceived sent result wait =>
      obtain ⟨hresult, rfl⟩ := (Client.answers_iff sent).mp accepted
      cases result.symm.trans hresult
      cases (wait.of_finds found counts).1
    | received sent result wait hfetch =>
      obtain ⟨hresult, rfl⟩ := (Client.answers_iff sent).mp accepted
      cases result.symm.trans hresult
      obtain ⟨hreceipt, hafter⟩ := wait.of_finds found counts
      cases hreceipt
      change client.Answers _ _ (Wait.after (policy.wait _ _ _ (s.now + _)) _) _ at fetched
      rw [hafter] at fetched
      obtain ⟨hrecord, rfl⟩ := (Client.answers_iff hfetch).mp fetched
      rw [judgeFetched_ok_iff]
      exact ⟨⟨_, hrecord, judgeTransfer_ok_iff.mpr ⟨status, gasUsed, value, rfl⟩⟩, rfl⟩

end Devnet
