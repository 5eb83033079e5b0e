import Devnet.Proofs.Conversation
import Devnet.Proofs.PollSchedule

namespace Devnet

variable {σ : Type}

namespace Wait

/-- How a wait ends, with its result, the client's memory, the time, and the polls made by then.
Poll number `n` is the last one. -/
inductive Ends (w : Wait σ) (timeout : Duration) :
    Except CheckError Receipt → σ → Nat → List Call → Prop where
  | found {n : Nat} {receipt : Receipt} (reached : w.Reached n)
      (inTime : w.pollEnd n ≤ w.deadline) (result : (w.reply n).result = .ok (some receipt)) :
      Ends w timeout (.ok receipt) (w.before (n + 1)).1 (w.pollEnd n) (w.polls (n + 1))
  | failed {n : Nat} {e : CheckError} (reached : w.Reached n)
      (inTime : w.pollEnd n ≤ w.deadline) (result : (w.reply n).result = .error e) :
      Ends w timeout (.error e) (w.before (n + 1)).1 (w.pollEnd n) (w.polls (n + 1))
  /-- The deadline passes while an answer is awaited. -/
  | dropped {n : Nat} (reached : w.Reached n) (late : w.deadline < w.pollEnd n) :
      Ends w timeout (.error (.receiptTimeout w.hash timeout)) (w.before (n + 1)).1 w.deadline
        (w.polls n ++ [w.openPoll n])
  /-- The deadline passes between two polls. -/
  | timedOut {n : Nat} (reached : w.Reached n) (inTime : w.pollEnd n ≤ w.deadline)
      (result : (w.reply n).result = .ok none) (last : ¬ w.Reached (n + 1)) :
      Ends w timeout (.error (.receiptTimeout w.hash timeout)) (w.before (n + 1)).1 w.deadline
        (w.polls (n + 1))

/-- What the count of the timers left in a turn says about the polls before number `k`. -/
structure Turn (w : Wait σ) (k left : Nat) : Prop where
  /-- As many polls as are missing from a turn have begun just now. -/
  spent : left + 1 < turnLimit →
    turnLimit ≤ k + 1 + left ∧ w.pollStart (k + 1 + left - turnLimit) = (w.before k).2
  /-- Each poll that has begun at the deadline has used up a timer. -/
  room : w.due k ≤ w.deadline → ∀ j, j < k → w.deadline ≤ w.pollStart j →
    left + (k - j) < turnLimit
  full : left < turnLimit ∨ left = turnLimit ∧ k = 0

theorem turn_zero (w : Wait σ) : w.Turn 0 turnLimit where
  spent h := absurd h (by omega)
  room _ j hj := absurd hj (by omega)
  full := .inr ⟨rfl, rfl⟩

theorem turn_fresh {w : Wait σ} {k : Nat}
    (h : w.due (k + 1) ≤ w.deadline → ∀ j, j < k + 1 → w.pollStart j < w.deadline) :
    w.Turn (k + 1) (turnLimit - 1) where
  spent hlt := absurd hlt (by decide)
  room hd j hj hge := absurd (h hd j hj) (by omega)
  full := .inl (by decide)

/-- The turn is used up at the deadline exactly if poll number `k` is one too many. -/
theorem Turn.usedUp_iff {w : Wait σ} {k left : Nat} (ht : w.Turn k left) (hp : w.Pending k)
    (hle : w.pollStart k ≤ w.deadline) :
    left = 0 ∧ w.due k ≤ (w.before k).2 ∧ w.deadline ≤ (w.before k).2 ↔ ¬ w.Reached k := by
  have hlimit : turnLimit = 128 := rfl
  constructor
  · rintro ⟨rfl, -, hge⟩ hr
    obtain ⟨hk, hstart⟩ := ht.spent (by omega)
    have hlt := hr.turn hk
    rw [Nat.add_zero] at hstart
    omega
  · intro hr
    have hlast : turnLimit ≤ k + 1 ∧ w.deadline ≤ w.pollStart (k + 1 - turnLimit) := by
      by_contra hnot
      refine hr ⟨hp, hle, fun hk => ?_⟩
      by_contra hge
      exact hnot ⟨hk, by omega⟩
    obtain ⟨hk, hge⟩ := hlast
    have hdue := w.due_le_pollStart k
    have hnow : w.pollStart (k + 1 - turnLimit) ≤ (w.before k).2 :=
      w.pollStart_le_before (by omega)
    have hroom := ht.room (by omega) (k + 1 - turnLimit) (by omega) hge
    exact ⟨by omega, by omega, by omega⟩

/-- The count after a poll that finds nothing and ends by the deadline. -/
theorem Turn.next {w : Wait σ} (hw : w.Regular) {k left : Nat} (ht : w.Turn k left)
    (hr : w.Reached k) (hend : w.pollEnd k ≤ w.deadline) :
    w.Turn (k + 1) (if (w.reply k).delay = 0 then leftInTurn (w.before k).2 (w.due k) left
      else turnLimit - 1) := by
  have hlimit : turnLimit = 128 := rfl
  have hused := (ht.usedUp_iff hr.pending hr.start_le).not.mpr (not_not.mpr hr)
  have hdue := hw.due_lt k
  have hstart : w.pollStart k = max (w.due k) (w.before k).2 := rfl
  have hstop : w.pollEnd k = w.pollStart k + (w.reply k).delay := rfl
  have hmono (j : Nat) (hj : j < k + 1) : w.pollStart j ≤ w.pollStart k :=
    w.pollStart_mono (by omega)
  -- a turn goes on past a poll that is due and answered at once, unless it is used up
  by_cases hdelay : (w.reply k).delay = 0
  · rw [if_pos hdelay, leftInTurn]
    by_cases hfresh : (w.before k).2 < w.due k ∨ left = 0
    · rw [if_pos hfresh]
      apply turn_fresh
      intro hd j hj
      have hj := hmono j hj
      omega
    · rw [if_neg hfresh]
      have hnow : (w.before (k + 1)).2 = (w.before k).2 := by
        rw [before_succ_snd]
        omega
      constructor
      · intro hlt
        rw [hnow]
        by_cases hleft : left + 1 < turnLimit
        · obtain ⟨hk, hpoll⟩ := ht.spent hleft
          have hindex : k + 1 + 1 + (left - 1) - turnLimit = k + 1 + left - turnLimit := by omega
          exact ⟨by omega, by rw [hindex, hpoll]⟩
        · have hindex : k + 1 + 1 + (left - 1) - turnLimit = k := by omega
          exact ⟨by omega, by rw [hindex]; omega⟩
      · intro hd j hj hge
        have hroom := ht.room (by omega) j
        have hfull := ht.full
        have hzero := hw.due_zero
        have hbegin : (w.before 0).2 = w.start := rfl
        have hjk := hmono j hj
        rcases Nat.lt_or_eq_of_le (Nat.le_of_lt_succ hj) with hj | rfl
        · have h := hroom hj hge
          omega
        · rcases hfull with hfull | ⟨rfl, rfl⟩ <;> omega
      · have hfull := ht.full
        exact .inl (by omega)
  · rw [if_neg hdelay]
    apply turn_fresh
    intro _ j hj
    have hj := hmono j hj
    omega

/-- The session when poll number `k` is next; `calls` were recorded before the wait. -/
structure AtPoll (w : Wait σ) (calls : List Call) (k left : Nat) (s : Session σ) : Prop where
  stands : s.Stands (w.before k).1 (w.before k).2 (calls ++ w.polls k)
  pending : w.Pending k
  now_le : (w.before k).2 ≤ w.deadline
  last : ∀ n, k = n + 1 → w.Reached n
  turn : w.Turn k left

/-- A poll that is made is either dropped at the deadline or answered. -/
theorem AtPoll.ask {w : Wait σ} (hw : w.Regular) {calls : List Call} {k left : Nat}
    {s : Session σ} (h : w.AtPoll calls k left s) (hr : w.Reached k) :
    (w.deadline < w.pollEnd k ∧
      ∃ t, pollReceipt w.client w.hash w.deadline (w.due k) left s = .late t ∧
        t.Stands (w.before (k + 1)).1 w.deadline (calls ++ (w.polls k ++ [w.openPoll k]))) ∨
    (w.pollEnd k ≤ w.deadline ∧
      ∃ n t, pollReceipt w.client w.hash w.deadline (w.due k) left s =
          .answered (w.reply k).result n t ∧
        t.Stands (w.before (k + 1)).1 (w.pollEnd k) (calls ++ w.polls (k + 1)) ∧
        w.Turn (k + 1) n) := by
  obtain ⟨⟨hmemory, hnow, hcalls⟩, hpending, -, -, hturn⟩ := h
  have hused := (hturn.usedUp_iff hpending hr.start_le).not.mpr (not_not.mpr hr)
  have hstart : max (w.due k) s.now = w.pollStart k := by rw [hnow]; rfl
  rw [← hnow] at hused
  have hreply : w.client.reply (.receipt w.hash) s.memory = (w.reply k, (w.before (k + 1)).1) := by
    rw [hmemory]; rfl
  unfold pollReceipt
  simp only [hstart, hreply, if_neg (Nat.not_lt.mpr hr.start_le), if_neg hused]
  by_cases hlate : w.deadline < w.pollEnd k
  · refine .inl ⟨hlate, _, if_pos hlate, rfl, rfl, ?_⟩
    rw [Array.toList_push, hcalls, List.append_assoc]
    rfl
  · refine .inr ⟨Nat.not_lt.mp hlate, _, _, if_neg hlate, ⟨rfl, rfl, ?_⟩, ?_⟩
    · rw [Array.toList_push, hcalls, List.append_assoc, polls_succ]
      rfl
    · rw [hnow]
      exact hturn.next hw hr (Nat.not_lt.mp hlate)

/-- Where no poll is made any more the wait is over at the deadline. -/
theorem AtPoll.stop {w : Wait σ} {calls : List Call} {k left : Nat} {s : Session σ}
    (h : w.AtPoll calls k left s) (hr : ¬ w.Reached k) :
    ∃ t, pollReceipt w.client w.hash w.deadline (w.due k) left s = .late t ∧
      t.Stands (w.before k).1 w.deadline (calls ++ w.polls k) := by
  obtain ⟨⟨hmemory, hnow, hcalls⟩, hpending, hle, -, hturn⟩ := h
  have hstart : max (w.due k) s.now = w.pollStart k := by rw [hnow]; rfl
  unfold pollReceipt
  by_cases hpassed : w.deadline < w.pollStart k
  · simp only [hstart, if_pos hpassed]
    exact ⟨_, rfl, hmemory, rfl, hcalls⟩
  · have hused := (hturn.usedUp_iff hpending (Nat.not_lt.mp hpassed)).mpr hr
    rw [← hnow] at hused hle
    simp only [hstart, if_neg hpassed, if_pos hused]
    exact ⟨_, rfl, hmemory, by omega, hcalls⟩

theorem AtPoll.ends_timedOut {w : Wait σ} (hw : w.Regular) {calls : List Call} {k left : Nat}
    {s t : Session σ} (h : w.AtPoll calls k left s) (hr : ¬ w.Reached k)
    (ht : t.Stands (w.before k).1 w.deadline (calls ++ w.polls k)) (timeout : Duration) :
    ∃ memory now made,
      w.Ends timeout (.error (.receiptTimeout w.hash timeout)) memory now made ∧
      t.Stands memory now (calls ++ made) := by
  cases k with
  | zero => exact absurd hw.reached_zero hr
  | succ n =>
    exact ⟨_, _, _, .timedOut (h.last n rfl) h.now_le (h.pending n (Nat.lt_succ_self n)) hr, ht⟩

/-- The next poll is prepared for after one that finds nothing. -/
theorem AtPoll.next {w : Wait σ} {calls : List Call} {k left n : Nat} {s t : Session σ}
    (h : w.AtPoll calls k left s) (hr : w.Reached k) (hend : w.pollEnd k ≤ w.deadline)
    (hnone : (w.reply k).result = .ok none)
    (ht : t.Stands (w.before (k + 1)).1 (w.pollEnd k) (calls ++ w.polls (k + 1)))
    (hturn : w.Turn (k + 1) n) : w.AtPoll calls (k + 1) n t where
  stands := ht
  pending := h.pending.succ hnone
  now_le := hend
  last m hm := by
    obtain rfl : m = k := by omega
    exact hr
  turn := hturn

end Wait

/-- The loop of polls keeps in step with the schedule to the end of the wait. -/
theorem pollFrom_ends (client : Client σ) (hash : TxHash) (policy : WaitPolicy) (memory : σ)
    (start : Nat) (calls : List Call) (fuel k left : Nat) (s : Session σ)
    (h : (policy.wait client hash memory start).AtPoll calls k left s)
    (hfuel : policy.pollLimit ≤ k + fuel) :
    ∃ memory' now made,
      (policy.wait client hash memory start).Ends policy.timeout
        (pollFrom client hash policy start fuel k left s).1 memory' now made ∧
      (pollFrom client hash policy start fuel k left s).2.Stands memory' now (calls ++ made) := by
  have hw := policy.wait_regular client hash memory start
  induction fuel generalizing k left s with
  | zero =>
    -- there was fuel for every poll that is due by the deadline
    have hr : ¬ (policy.wait client hash memory start).Reached k := by
      intro hr
      have hdue := hw.due_le hfuel
      have hlate := policy.deadline_lt_due_pollLimit start
      have hstart := (Wait.due_le_pollStart _ k).trans hr.start_le
      exact absurd (hdue.trans hstart) (Nat.not_le.mpr hlate)
    unfold pollFrom
    have ht : (s.movedTo (policy.deadline start)).Stands
        ((policy.wait client hash memory start).before k).1 (policy.deadline start)
        (calls ++ (policy.wait client hash memory start).polls k) :=
      ⟨h.stands.memory, rfl, h.stands.calls⟩
    exact h.ends_timedOut hw hr ht policy.timeout
  | succ fuel ih =>
    unfold pollFrom
    by_cases hr : (policy.wait client hash memory start).Reached k
    · rcases h.ask hw hr with ⟨hlate, t, ht, hstands⟩ | ⟨hend, n, t, ht, hstands, hturn⟩
      · change pollReceipt client hash (policy.deadline start) (policy.due start k) left s = _ at ht
        rw [ht]
        exact ⟨_, _, _, .dropped hr hlate, hstands⟩
      · change pollReceipt client hash (policy.deadline start) (policy.due start k) left s = _ at ht
        cases hresult : ((policy.wait client hash memory start).reply k).result with
        | error e =>
          rw [hresult] at ht
          rw [ht]
          exact ⟨_, _, _, .failed hr hend hresult, hstands⟩
        | ok found =>
          rw [hresult] at ht
          rw [ht]
          cases found with
          | some receipt => exact ⟨_, _, _, .found hr hend hresult, hstands⟩
          | none => exact ih _ _ _ (h.next hr hend hresult (hstands.noted _) hturn) (by omega)
    · obtain ⟨t, ht, hstands⟩ := h.stop hr
      change pollReceipt client hash (policy.deadline start) (policy.due start k) left s = _ at ht
      rw [ht]
      exact h.ends_timedOut hw hr hstands policy.timeout

theorem waitForReceipt_run (client : Client σ) (hash : TxHash) (policy : WaitPolicy)
    (s : Session σ) :
    (waitForReceipt client hash policy).run s =
      pollFrom client hash policy s.now policy.pollLimit 0 turnLimit s := by
  rw [waitForReceipt, ExceptT.run_mk]

/-- Waiting for a receipt ends as the schedule of its polls says. -/
theorem waitForReceipt_ends (client : Client σ) (hash : TxHash) (policy : WaitPolicy)
    (s : Session σ) :
    ∃ memory now made,
      (policy.wait client hash s.memory s.now).Ends policy.timeout
        ((waitForReceipt client hash policy).run s).1 memory now made ∧
      ((waitForReceipt client hash policy).run s).2.Stands memory now
        (s.calls.toList ++ made) := by
  rw [waitForReceipt_run]
  apply pollFrom_ends
  · refine ⟨⟨rfl, rfl, by simp [Wait.polls]⟩, ?_, Nat.le_add_right .., ?_, Wait.turn_zero _⟩
    · intro k hk
      omega
    · intro n hn
      omega
  · omega

end Devnet
