import Devnet.Proofs.Conformance

namespace Devnet

variable {σ : Type}

namespace Wait

/-- Poll number `n` is the first that finds something, a receipt or an error, and its answer counts:
it comes by the deadline, to a poll that is made. -/
structure Decides (w : Wait σ) (n : Nat) (r : Except CheckError Receipt) : Prop where
  pending : w.Pending n
  result : (w.reply n).result = r.map some
  inTime : w.pollEnd n ≤ w.deadline
  inTurn : w.InTurn n

/-- What a wait comes to, with its time and the polls it has recorded. -/
structure Follows (w : Wait σ) (timeout : Duration) (r : Except CheckError Receipt) (now : Nat)
    (made : List Call) : Prop where
  /-- Those polls are recorded that the schedule makes. -/
  length_iff : ∀ k, k < made.length ↔ w.Reached k
  /-- Each begins at its time; the deadline cuts off an answer that comes later. -/
  poll : ∀ k c, made[k]? = some c →
    c = w.poll k ∧ w.pollEnd k ≤ w.deadline ∨ c = w.openPoll k ∧ w.deadline < w.pollEnd k
  decided : ∀ n answer, w.Decides n answer → r = answer ∧ now = w.pollEnd n
  timedOut : (¬ ∃ n answer, w.Decides n answer) →
    r = .error (.receiptTimeout w.hash timeout) ∧ now = w.deadline

section

variable {w : Wait σ} {timeout : Duration} {r : Except CheckError Receipt} {m n : Nat}

theorem Decides.result_ne_none (h : w.Decides n r) : (w.reply n).result ≠ .ok none := by
  rw [h.result]
  cases r <;> simp [Except.map]

theorem Decides.reached (h : w.Decides n r) : w.Reached n :=
  ⟨h.pending, (w.pollStart_le_pollEnd n).trans h.inTime, h.inTurn⟩

/-- No poll is made after one that has found something. -/
theorem Decides.reached_le (h : w.Decides n r) (hm : w.Reached m) : m ≤ n :=
  hm.pending.le h.result_ne_none

theorem Decides.unique {s : Except CheckError Receipt} (hm : w.Decides m r) (hn : w.Decides n s) :
    m = n ∧ r = s := by
  obtain rfl : m = n := Nat.le_antisymm (hn.reached_le hm.reached) (hm.reached_le hn.reached)
  have heq : r.map some = s.map some := hm.result.symm.trans hn.result
  refine ⟨rfl, ?_⟩
  cases r with
  | error e =>
    cases s with
    | error d => exact congrArg _ (Except.error.inj heq)
    | ok v => cases heq
  | ok v =>
    cases s with
    | error e => cases heq
    | ok u =>
      have hsome : some v = some u := Except.ok.inj heq
      rw [Option.some.inj hsome]

theorem Reached.lt_succ_iff (hr : w.Reached n) (hlast : ¬ w.Reached (n + 1)) (k : Nat) :
    k < n + 1 ↔ w.Reached k := by
  constructor
  · intro hk
    exact hr.of_le (Nat.le_of_lt_succ hk)
  · intro hk
    by_contra hlt
    exact hlast (hk.of_le (Nat.not_lt.mp hlt))

theorem eq_poll_of_getElem {k : Nat} {c : Call} (h : (w.polls n)[k]? = some c) :
    k < n ∧ c = w.poll k := by
  obtain ⟨hk, hc⟩ := List.getElem?_eq_some_iff.mp h
  have hlt : k < n := by simpa [polls] using hk
  refine ⟨hlt, ?_⟩
  simpa [polls] using hc.symm

theorem pollEnd_mono {j k : Nat} (h : j ≤ k) : w.pollEnd j ≤ w.pollEnd k := by
  rcases Nat.lt_or_eq_of_le h with h | rfl
  · exact (w.pollEnd_le_pollStart h).trans (w.pollStart_le_pollEnd k)
  · exact le_refl _

/-- The polls up to one that is answered by the deadline are all answered by then. -/
theorem polls_inTime (hend : w.pollEnd n ≤ w.deadline) {k : Nat} {c : Call}
    (hc : (w.polls (n + 1))[k]? = some c) : c = w.poll k ∧ w.pollEnd k ≤ w.deadline := by
  obtain ⟨hk, hpoll⟩ := eq_poll_of_getElem hc
  have hle : w.pollEnd k ≤ w.pollEnd n := pollEnd_mono (Nat.le_of_lt_succ hk)
  exact ⟨hpoll, hle.trans hend⟩

theorem Decides.follows (h : w.Decides n r) :
    w.Follows timeout r (w.pollEnd n) (w.polls (n + 1)) where
  length_iff k := by
    have hlast : ¬ w.Reached (n + 1) := by
      intro hr
      have hle := h.reached_le hr
      omega
    rw [length_polls]
    exact h.reached.lt_succ_iff hlast k
  poll k c hc := .inl (polls_inTime h.inTime hc)
  decided m answer hm := by
    obtain ⟨rfl, rfl⟩ := h.unique hm
    exact ⟨rfl, rfl⟩
  timedOut hnone := absurd ⟨n, r, h⟩ hnone

/-- The deadline passes while the answer to poll number `n` is awaited. -/
theorem follows_dropped (hr : w.Reached n) (hlate : w.deadline < w.pollEnd n) :
    w.Follows timeout (.error (.receiptTimeout w.hash timeout)) w.deadline
      (w.polls n ++ [w.openPoll n]) where
  length_iff k := by
    have hlast : ¬ w.Reached (n + 1) := by
      intro hnext
      have hend : w.pollEnd n ≤ w.pollStart (n + 1) := w.pollEnd_le_pollStart (Nat.lt_succ_self n)
      have hstart := hnext.start_le
      omega
    rw [List.length_append, length_polls, List.length_singleton]
    exact hr.lt_succ_iff hlast k
  poll k c hc := by
    have hlength := w.length_polls n
    by_cases hk : k < n
    · rw [List.getElem?_append_left (by omega)] at hc
      have hpoll := (eq_poll_of_getElem hc).2
      have hend : w.pollEnd k ≤ w.pollStart n := w.pollEnd_le_pollStart hk
      exact .inl ⟨hpoll, hend.trans hr.start_le⟩
    · rw [List.getElem?_append_right (by omega), hlength, List.getElem?_singleton] at hc
      split at hc
      · obtain rfl : k = n := by omega
        obtain rfl := Option.some.inj hc
        exact .inr ⟨rfl, hlate⟩
      · cases hc
  decided m answer hm := by
    have hend : w.pollEnd n ≤ w.pollEnd m := pollEnd_mono (hm.reached_le hr)
    have hin := hm.inTime
    omega
  timedOut _ := ⟨rfl, rfl⟩

/-- The deadline passes after poll number `n`, which has found nothing and is the last. -/
theorem follows_timedOut (hr : w.Reached n) (hend : w.pollEnd n ≤ w.deadline)
    (hnone : (w.reply n).result = .ok none) (hlast : ¬ w.Reached (n + 1)) :
    w.Follows timeout (.error (.receiptTimeout w.hash timeout)) w.deadline
      (w.polls (n + 1)) where
  length_iff k := by
    rw [length_polls]
    exact hr.lt_succ_iff hlast k
  poll k c hc := .inl (polls_inTime hend hc)
  decided m answer hm := by
    have hle : n + 1 ≤ m := (hr.pending.succ hnone).le hm.result_ne_none
    exact absurd (hm.reached.of_le hle) hlast
  timedOut _ := ⟨rfl, rfl⟩

/-- A wait that ends has followed its schedule. -/
theorem Ends.follows {memory : σ} {now : Nat} {made : List Call}
    (h : w.Ends timeout r memory now made) : w.Follows timeout r now made := by
  cases h with
  | found reached inTime result =>
    exact Decides.follows ⟨reached.pending, result, inTime, reached.turn⟩
  | failed reached inTime result =>
    exact Decides.follows ⟨reached.pending, result, inTime, reached.turn⟩
  | dropped reached late => exact follows_dropped reached late
  | timedOut reached inTime result last => exact follows_timedOut reached inTime result last

end

end Wait

theorem waitForReceipt_follows (client : Client σ) (hash : TxHash) (policy : WaitPolicy)
    (s : Session σ) :
    ∃ made,
      ((waitForReceipt client hash policy).run s).2.calls.toList = s.calls.toList ++ made ∧
      (policy.wait client hash s.memory s.now).Follows policy.timeout
        ((waitForReceipt client hash policy).run s).1
        ((waitForReceipt client hash policy).run s).2.now made := by
  obtain ⟨memory, now, made, hends, hstands⟩ := waitForReceipt_ends client hash policy s
  have hfollows := hends.follows
  rw [← hstands.now] at hfollows
  exact ⟨made, hstands.calls, hfollows⟩

/-- With whole milliseconds between the polls, at most thirty years of them: a wait for a receipt
asks at once, then at each interval or as soon as the poll before has ended, and comes to what the
first answer that counts says, or else to a timeout at the deadline. -/
theorem waitForReceipt_scheduled {timeout interval : Nat}
    (hinterval : interval ≤ 30 * 365 * 86400 * 1000) (client : Client σ) (hash : TxHash)
    (s : Session σ) :
    let w := Wait.every client timeout interval hash s.moment
    let policy : WaitPolicy := ⟨.ofMilliseconds timeout, .ofMilliseconds interval⟩
    let run := (waitForReceipt client hash policy).run s
    w.pollStart 0 = s.now ∧
    (∀ k, w.pollStart (k + 1) = max (s.now + (k + 1) * max interval 1) (w.pollEnd k)) ∧
    (∀ k, w.pollEnd k = w.pollStart k + (w.reply k).delay) ∧
    ∃ made, run.2.calls.toList = s.calls.toList ++ made ∧
      w.Follows policy.timeout run.1 run.2.now made := by
  have hw : WaitPolicy.wait ⟨.ofMilliseconds timeout, .ofMilliseconds interval⟩ client hash
      s.memory s.now = Wait.every client timeout interval hash s.moment :=
    WaitPolicy.wait_eq_every hinterval client hash s.moment
  have hfollows := waitForReceipt_follows client hash
    ⟨.ofMilliseconds timeout, .ofMilliseconds interval⟩ s
  rw [hw] at hfollows
  have hzero : (Wait.every client timeout interval hash s.moment).pollStart 0 = s.now := by
    change max (s.now + 0 * max interval 1) s.now = s.now
    omega
  exact ⟨hzero, fun k => rfl, fun k => rfl, hfollows⟩

namespace Script

/-- The first poll lasts past the time of the second; the receipt comes with the third. -/
def slow : Script := taking [⟨.ok none, 2⟩, ⟨.ok none, 0⟩, ⟨.ok (some plainReceipt), 1⟩]

theorem slow_decides : (Wait.every client 3 1 ⟨7⟩ (Session.start slow).moment).Decides 2
    (.ok plainReceipt) where
  pending k hk := by
    match k with
    | 0 => rfl
    | 1 => rfl
  result := rfl
  inTime := by decide
  inTurn h := absurd h (by decide)

/-- A receipt that comes just at the deadline is the result, with the polls made up for. -/
theorem waitForReceipt_slow :
    1 ≤ 30 * 365 * 86400 * 1000 ∧
    ((waitForReceipt client ⟨7⟩ ⟨.ofMilliseconds 3, .ofMilliseconds 1⟩).run
      (Session.start slow)).1 = .ok plainReceipt ∧
    ((waitForReceipt client ⟨7⟩ ⟨.ofMilliseconds 3, .ofMilliseconds 1⟩).run
      (Session.start slow)).2.now = 3 := by
  have hinterval : 1 ≤ 30 * 365 * 86400 * 1000 := by decide
  have hend : (Wait.every client 3 1 ⟨7⟩ (Session.start slow).moment).pollEnd 2 = 3 := rfl
  obtain ⟨-, -, -, made, -, hfollows⟩ :=
    @waitForReceipt_scheduled Script 3 1 hinterval client ⟨7⟩ (Session.start slow)
  obtain ⟨hresult, hnow⟩ := hfollows.decided 2 (.ok plainReceipt) slow_decides
  exact ⟨hinterval, hresult, hnow.trans hend⟩

/-- The receipt would be there by the deadline, with a poll that is one too many in its turn. -/
theorem waitForReceipt_tardy :
    (tardy.hastyPolls 0).Finds 128 plainReceipt ∧
    ((waitForReceipt client ⟨7⟩ ⟨.ofMilliseconds 128, .ofMilliseconds 1⟩).run
      (Session.start tardy)).1 = .error (.receiptTimeout ⟨7⟩ (.ofMilliseconds 128)) := by
  have hinterval : 1 ≤ 30 * 365 * 86400 * 1000 := by decide
  have hpolls : WaitPolicy.wait ⟨.ofMilliseconds 128, .ofMilliseconds 1⟩ client ⟨7⟩
      (Session.start tardy).memory (Session.start tardy).now = tardy.hastyPolls 0 :=
    WaitPolicy.wait_eq_every hinterval client ⟨7⟩ (Session.start tardy).moment
  have hhash : (tardy.hastyPolls 0).hash = ⟨7⟩ := rfl
  obtain ⟨made, -, hfollows⟩ := waitForReceipt_follows client ⟨7⟩
    ⟨.ofMilliseconds 128, .ofMilliseconds 1⟩ (Session.start tardy)
  rw [hpolls] at hfollows
  have hnone : ¬ ∃ n answer, (tardy.hastyPolls 0).Decides n answer := by
    intro h
    obtain ⟨n, answer, hdecides⟩ := h
    have hn : n = 128 := by
      apply Nat.le_antisymm
      · exact hdecides.pending.le tardy_finds.result_ne_none
      · exact tardy_finds.pending.le hdecides.result_ne_none
    rw [hn] at hdecides
    exact tardy_not_inTurn hdecides.inTurn
  have hresult := (hfollows.timedOut hnone).1
  rw [hhash] at hresult
  exact ⟨tardy_finds, hresult⟩

end Script

end Devnet
