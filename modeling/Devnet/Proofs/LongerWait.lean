import Devnet.Proofs.RunParts

namespace Devnet

variable {σ α β : Type}

/-- The result says that no receipt came in time. -/
def TimesOut (r : Except CheckError α) : Prop :=
  ∃ hash timeout, r = .error (.receiptTimeout hash timeout)

theorem timesOut_error_iff {e : CheckError} :
    TimesOut (.error e : Except CheckError α) ↔
      ∃ hash timeout, e = .receiptTimeout hash timeout := by
  constructor
  · rintro ⟨hash, timeout, h⟩
    exact ⟨hash, timeout, Except.error.inj h⟩
  · rintro ⟨hash, timeout, rfl⟩
    exact ⟨hash, timeout, rfl⟩

theorem not_timesOut_ok (v : α) : ¬ TimesOut (.ok v) := by
  rintro ⟨_, _, h⟩
  cases h

theorem timesOut_map_iff {f : α → β} {r : Except CheckError α} :
    TimesOut (r.map f) ↔ TimesOut r := by
  cases r with
  | error e => exact timesOut_error_iff.trans timesOut_error_iff.symm
  | ok v => exact iff_of_false (not_timesOut_ok _) (not_timesOut_ok v)

namespace Action

/-- Wherever the first steps do not time out the second ones do the same. -/
def KeptBy (x y : Action σ α) : Prop := ∀ s, ¬ TimesOut (x.run s).1 → y.run s = x.run s

theorem keptBy_refl (x : Action σ α) : x.KeptBy x := fun _ _ => rfl

theorem KeptBy.bind {x y : Action σ α} {f g : α → Action σ β} (hx : x.KeptBy y)
    (hf : ∀ v, (f v).KeptBy (g v)) : (x >>= f).KeptBy (y >>= g) := by
  intro s h
  rcases hrun : x.run s with ⟨e | v, t⟩
  · rw [run_bind_of_error hrun] at h
    have hx' : ¬ TimesOut (x.run s).1 := by
      rw [hrun]
      exact mt (timesOut_error_iff.trans timesOut_error_iff.symm).mp h
    have hy : y.run s = (.error e, t) := by rw [hx s hx', hrun]
    rw [run_bind_of_error hrun, run_bind_of_error hy]
  · rw [run_bind_of_ok hrun] at h
    have hx' : ¬ TimesOut (x.run s).1 := by
      rw [hrun]
      exact not_timesOut_ok v
    have hy : y.run s = (.ok v, t) := by rw [hx s hx', hrun]
    rw [run_bind_of_ok hrun, run_bind_of_ok hy]
    exact hf v t h

end Action

/-- A poll that is answered by a deadline is answered alike by a later one. -/
theorem pollReceipt_of_later {client : Client σ} {hash : TxHash} {deadline later due left n : Nat}
    {s t : Session σ} {r : Except CheckError (Option Receipt)} (hle : deadline ≤ later)
    (h : pollReceipt client hash deadline due left s = .answered r n t) :
    pollReceipt client hash later due left s = .answered r n t := by
  unfold pollReceipt at h ⊢
  rcases hreply : client.reply (.receipt hash) s.memory with ⟨reply, memory⟩
  simp only [hreply] at h ⊢
  by_cases hstart : deadline < max due s.now
  · rw [if_pos hstart] at h
    cases h
  · rw [if_neg hstart] at h
    rw [if_neg (by omega)]
    by_cases hused : left = 0 ∧ due ≤ s.now ∧ deadline ≤ s.now
    · rw [if_pos hused] at h
      cases h
    · rw [if_neg hused] at h
      rw [if_neg (by omega)]
      by_cases hend : deadline < max due s.now + reply.delay
      · rw [if_pos hend] at h
        cases h
      · rw [if_neg hend] at h
        rw [if_neg (by omega)]
        exact h

namespace WaitPolicy

/-- The same intervals with another timeout. -/
def lasting (p : WaitPolicy) (timeout : Duration) : WaitPolicy := { p with timeout }

variable {p : WaitPolicy} {timeout : Duration}

theorem millisecondsUp_mono {a b : Duration} (h : a.nanoseconds ≤ b.nanoseconds) :
    a.millisecondsUp ≤ b.millisecondsUp := by
  simp only [Duration.millisecondsUp_eq]
  omega

theorem deadline_le_lasting (h : p.timeout.nanoseconds ≤ timeout.nanoseconds) (start : Nat) :
    p.deadline start ≤ (p.lasting timeout).deadline start :=
  Nat.add_le_add_left (millisecondsUp_mono h) start

theorem pollLimit_le_lasting (h : p.timeout.nanoseconds ≤ timeout.nanoseconds) :
    p.pollLimit ≤ (p.lasting timeout).pollLimit := by
  have hmillis : p.timeout.millisecondsUp ≤ (p.lasting timeout).timeout.millisecondsUp :=
    millisecondsUp_mono h
  have hperiod : (p.lasting timeout).period = p.period := rfl
  rw [pollLimit, pollLimit, hperiod]
  exact Nat.add_le_add_right (Nat.div_le_div_right (Nat.mul_le_mul_right _ hmillis)) 1

end WaitPolicy

/-- The polls of a wait that does not time out are made alike with a longer timeout, and nothing is
left over for it to do. -/
theorem pollFrom_lasting (client : Client σ) (hash : TxHash) {p : WaitPolicy} {timeout : Duration}
    (hle : p.timeout.nanoseconds ≤ timeout.nanoseconds) (start : Nat) {fuel more : Nat}
    (hfuel : fuel ≤ more) (k left : Nat) (s : Session σ)
    (h : ¬ TimesOut (pollFrom client hash p start fuel k left s).1) :
    pollFrom client hash (p.lasting timeout) start more k left s =
      pollFrom client hash p start fuel k left s := by
  induction fuel generalizing more k left s with
  | zero => exact absurd ⟨_, _, rfl⟩ h
  | succ fuel ih =>
    obtain ⟨more, rfl⟩ : ∃ n, more = n + 1 := ⟨more - 1, by omega⟩
    have hdeadline := WaitPolicy.deadline_le_lasting hle start
    unfold pollFrom at h ⊢
    cases hpoll : pollReceipt client hash (p.deadline start) (p.due start k) left s with
    | late t =>
      rw [hpoll] at h
      exact absurd ⟨_, _, rfl⟩ h
    | answered r n t =>
      have hlater := pollReceipt_of_later hdeadline hpoll
      change pollReceipt client hash ((p.lasting timeout).deadline start)
        ((p.lasting timeout).due start k) left s = _ at hlater
      rw [hpoll] at h
      rw [hlater]
      rcases r with e | (_ | receipt)
      · rfl
      · exact ih (by omega) (k + 1) n _ h
      · rfl

theorem waitForReceipt_lasting (client : Client σ) (hash : TxHash) {p : WaitPolicy}
    {timeout : Duration} (hle : p.timeout.nanoseconds ≤ timeout.nanoseconds) :
    (waitForReceipt client hash p).KeptBy (waitForReceipt client hash (p.lasting timeout)) := by
  intro s h
  rw [waitForReceipt_run] at h
  rw [waitForReceipt_run, waitForReceipt_run]
  exact pollFrom_lasting client hash hle s.now (WaitPolicy.pollLimit_le_lasting hle) 0 turnLimit s h

theorem checkTransfer_lasting (client : Client σ) (intent : TransferIntent) {p : WaitPolicy}
    {timeout : Duration} (hle : p.timeout.nanoseconds ≤ timeout.nanoseconds) :
    (checkTransfer client intent p).KeptBy (checkTransfer client intent (p.lasting timeout)) := by
  rw [checkTransfer_eq, checkTransfer_eq]
  exact (Action.keptBy_refl _).bind fun hash => (Action.keptBy_refl _).bind fun _ =>
    (waitForReceipt_lasting client hash hle).bind fun _ => Action.keptBy_refl _

/-- Some check has waited for a receipt until its deadline. -/
def Report.TimedOut (r : Report) : Prop := ∃ o ∈ r.outcomes, TimesOut o.result

theorem Report.not_timedOut_of_isSuccess {r : Report} (h : r.isSuccess = true) : ¬ r.TimedOut := by
  rintro ⟨o, ho, hash, timeout, hresult⟩
  have hpassed : o.passed = true := List.all_eq_true.mp h o ho
  rw [Outcome.passed, hresult] at hpassed
  cases hpassed

namespace Suite

/-- The same checks with another timeout. -/
def lasting (s : Suite) (timeout : Duration) : Suite := { s with wait := s.wait.lasting timeout }

theorem record_keptBy {x y : Action σ α} (hxy : x.KeptBy y) {name : String} {detail : α → Detail}
    {s : Session σ} (h : ¬ TimesOut ((record name detail x).run s).1.result) :
    (record name detail y).run s = (record name detail x).run s := by
  rw [record_run_fst, timesOut_map_iff] at h
  change record name detail y s = record name detail x s
  unfold record
  rw [hxy s h]

theorem transferred_lasting (s : Suite) {timeout : Duration}
    (hle : s.wait.timeout.nanoseconds ≤ timeout.nanoseconds) {client : Client σ} {sender : Role}
    {session : Session σ} (h : ¬ TimesOut (s.transferred client sender session).1.result) :
    (s.lasting timeout).transferred client sender session =
      s.transferred client sender session :=
  record_keptBy (checkTransfer_lasting client (s.intent sender) hle) h

/-- A run in which no check times out is the same with a longer timeout. -/
theorem run_lasting_of_not_timedOut {s : Suite} {timeout : Duration}
    (hle : s.wait.timeout.nanoseconds ≤ timeout.nanoseconds) {client : Client σ}
    {session : Session σ} (h : ¬ ((s.run client).run session).1.TimedOut) :
    ((s.lasting timeout).run client).run session = (s.run client).run session := by
  rw [run_eq_parts] at h
  rw [run_eq_parts, run_eq_parts]
  have hwhale : ¬ TimesOut (s.whaleTransfer client session).1.result :=
    fun htimes => h ⟨_, by simp, htimes⟩
  have huser : ¬ TimesOut (s.userTransfer client session).1.result :=
    fun htimes => h ⟨_, by simp, htimes⟩
  have hfirst : (s.lasting timeout).whaleTransfer client session =
      s.whaleTransfer client session := s.transferred_lasting hle hwhale
  have hsecond : (s.lasting timeout).transferred client .user (s.whaleTransfer client session).2 =
      s.userTransfer client session := s.transferred_lasting hle huser
  have hlast : (s.lasting timeout).userTransfer client session = s.userTransfer client session := by
    rw [← hsecond, ← hfirst]
    rfl
  rw [hfirst, hlast]
  rfl

/-- For every suite, client and state of the conversation and every timeout that is not shorter: a
run without a timeout makes the same calls at the same times with the longer one, ends at the same
time and in the same state, and gives the same report; and a run that passes still passes. -/
theorem run_lasting (s : Suite) {timeout : Duration}
    (hle : s.wait.timeout.nanoseconds ≤ timeout.nanoseconds) (client : Client σ)
    (session : Session σ) :
    (¬ ((s.run client).run session).1.TimedOut →
      ((s.lasting timeout).run client).run session = (s.run client).run session) ∧
    (((s.run client).run session).1.isSuccess = true →
      (((s.lasting timeout).run client).run session).1.isSuccess = true) := by
  refine ⟨run_lasting_of_not_timedOut hle, fun hsuccess => ?_⟩
  rw [run_lasting_of_not_timedOut hle (Report.not_timedOut_of_isSuccess hsuccess)]
  exact hsuccess

/-- Polls every millisecond for three milliseconds. -/
def brief : Suite :=
  plain (.ofNetwork .hardhat) ⟨⟨0⟩, ⟨1⟩⟩ ⟨.ofMilliseconds 3, .ofMilliseconds 1⟩

/-- A receipt that comes just at the deadline comes as well with a longer timeout. -/
theorem run_lasting_at_deadline :
    brief.wait.timeout.nanoseconds ≤ (Duration.ofMilliseconds 5).nanoseconds ∧
    ((brief.run Script.client).run (.start (Script.taking (Script.foundAfter 3)))).1.isSuccess =
      true ∧
    (((brief.lasting (.ofMilliseconds 5)).run Script.client).run
      (.start (Script.taking (Script.foundAfter 3)))) =
        (brief.run Script.client).run (.start (Script.taking (Script.foundAfter 3))) := by
  have hsuccess : ((brief.run Script.client).run
      (.start (Script.taking (Script.foundAfter 3)))).1.isSuccess = true := by decide +kernel
  have hle : brief.wait.timeout.nanoseconds ≤ (Duration.ofMilliseconds 5).nanoseconds := by decide
  refine ⟨hle, hsuccess, ?_⟩
  exact (brief.run_lasting hle Script.client _).1 (Report.not_timedOut_of_isSuccess hsuccess)

end Suite

end Devnet
