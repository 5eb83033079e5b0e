import Devnet.Proofs.WaitSchedule

namespace Devnet

variable {σ : Type}

namespace Wait

/-- The client finds nothing at any poll, and says so at once. -/
def Silent (w : Wait σ) : Prop := ∀ k, (w.reply k).result = .ok none ∧ (w.reply k).delay = 0

section

variable {w : Wait σ} {timeout : Duration} {r : Except CheckError Receipt} {now k : Nat}
  {made : List Call} {c d : Call}

theorem Regular.start_le_pollEnd (hw : w.Regular) (k : Nat) : w.start ≤ w.pollEnd k := by
  calc
    w.start = w.pollStart 0 := hw.pollStart_zero.symm
    _ ≤ w.pollStart k := w.pollStart_mono (Nat.zero_le k)
    _ ≤ w.pollEnd k := w.pollStart_le_pollEnd k

theorem Follows.now_le_deadline (h : w.Follows timeout r now made) : now ≤ w.deadline := by
  by_cases hdecides : ∃ n answer, w.Decides n answer
  · obtain ⟨n, answer, hdecides⟩ := hdecides
    rw [(h.decided n answer hdecides).2]
    exact hdecides.inTime
  · exact (h.timedOut hdecides).2.le

theorem Follows.start_le_now (h : w.Follows timeout r now made) (hw : w.Regular) :
    w.start ≤ now := by
  by_cases hdecides : ∃ n answer, w.Decides n answer
  · obtain ⟨n, answer, hdecides⟩ := hdecides
    rw [(h.decided n answer hdecides).2]
    exact hw.start_le_pollEnd n
  · rw [(h.timedOut hdecides).2]
    exact hw.start_le

theorem Follows.length_pos (h : w.Follows timeout r now made) (hw : w.Regular) :
    0 < made.length := (h.length_iff 0).mpr hw.reached_zero

theorem Follows.reached (h : w.Follows timeout r now made) (hc : made[k]? = some c) :
    w.Reached k := by
  obtain ⟨hk, -⟩ := List.getElem?_eq_some_iff.mp hc
  exact (h.length_iff k).mp hk

/-- A call that is recorded asks for the receipt, when its poll begins. -/
theorem Follows.call (h : w.Follows timeout r now made) (hc : made[k]? = some c) :
    c.query = .receipt w.hash ∧ c.start = w.pollStart k := by
  rcases h.poll k c hc with ⟨rfl, -⟩ | ⟨rfl, -⟩ <;> exact ⟨rfl, rfl⟩

/-- Before another poll begins, the one before has its answer. -/
theorem Follows.answered (h : w.Follows timeout r now made) (hc : made[k]? = some c)
    (hd : made[k + 1]? = some d) : c = w.poll k ∧ w.pollEnd k ≤ d.start := by
  have hstart : w.pollEnd k ≤ d.start := by
    rw [(h.call hd).2]
    exact w.pollEnd_le_pollStart (Nat.lt_succ_self k)
  rcases h.poll k c hc with ⟨hpoll, -⟩ | ⟨-, hlate⟩
  · exact ⟨hpoll, hstart⟩
  · have hnext := (h.reached hd).start_le
    rw [(h.call hd).2] at hstart
    omega

end

section

variable {client : Client σ} {timeout interval : Nat} {hash : TxHash} {a : Moment σ} {k : Nat}

theorem every_regular : (every client timeout interval hash a).Regular where
  due_zero := by
    change a.now + 0 * max interval 1 = a.now
    omega
  due_lt k := by
    change a.now + k * max interval 1 < a.now + (k + 1) * max interval 1
    rw [Nat.succ_mul]
    omega
  start_le := Nat.le_add_right a.now timeout

theorem due_every (k : Nat) :
    (every client timeout interval hash a).due k = a.now + k * max interval 1 := rfl

theorem mul_period_le_pollStart (k : Nat) :
    a.now + k * max interval 1 ≤ (every client timeout interval hash a).pollStart k := by
  rw [← due_every]
  exact due_le_pollStart _ k

/-- So many intervals fit into the time before the deadline as there are polls before. -/
theorem Reached.le_div (h : (every client timeout interval hash a).Reached k) :
    k ≤ timeout / max interval 1 := by
  have hdue : a.now + k * max interval 1 ≤ a.now + timeout :=
    (mul_period_le_pollStart k).trans h.start_le
  rw [Nat.le_div_iff_mul_le (by omega)]
  omega

theorem Follows.length_le {wait : Duration} {r : Except CheckError Receipt} {now : Nat}
    {made : List Call} (h : (every client timeout interval hash a).Follows wait r now made) :
    made.length ≤ timeout / max interval 1 + 1 := by
  by_contra hlt
  have hreached := (h.length_iff (timeout / max interval 1 + 1)).mp (by omega)
  have hle := hreached.le_div
  omega

theorem Silent.pollStart_eq (h : (every client timeout interval hash a).Silent) (k : Nat) :
    (every client timeout interval hash a).pollStart k = a.now + k * max interval 1 := by
  induction k with
  | zero =>
    rw [every_regular.pollStart_zero, Nat.zero_mul]
    rfl
  | succ k ih =>
    have hend : (every client timeout interval hash a).pollEnd k = a.now + k * max interval 1 := by
      rw [pollEnd, ih, (h k).2]
      rfl
    rw [pollStart, before_succ_snd, hend, due_every, Nat.succ_mul]
    omega

/-- A client that is silent is asked as often as polls are due by the deadline: no two of them
begin at one time, so no turn is used up. -/
theorem Silent.reached_iff (h : (every client timeout interval hash a).Silent) (k : Nat) :
    (every client timeout interval hash a).Reached k ↔ k < timeout / max interval 1 + 1 := by
  have hdeadline : (every client timeout interval hash a).deadline = a.now + timeout := rfl
  have hlimit : turnLimit = 128 := rfl
  constructor
  · intro hreached
    exact Nat.lt_succ_of_le hreached.le_div
  · intro hk
    have hdue : k * max interval 1 ≤ timeout :=
      (Nat.le_div_iff_mul_le (by omega)).mp (Nat.le_of_lt_succ hk)
    refine ⟨fun j _ => (h j).1, ?_, fun hturn => ?_⟩
    · rw [h.pollStart_eq, hdeadline]
      omega
    · have hearlier : (k + 1 - turnLimit) * max interval 1 < k * max interval 1 :=
        Nat.mul_lt_mul_of_pos_right (by omega) (by omega)
      rw [h.pollStart_eq, hdeadline]
      omega

theorem Silent.poll_eq (h : (every client timeout interval hash a).Silent) (k : Nat) :
    (every client timeout interval hash a).poll k =
      ⟨a.now + k * max interval 1, .receipt hash, some (.ok none)⟩ := by
  rw [poll, h.pollStart_eq, (h k).1]
  rfl

theorem Silent.pollEnd_le_deadline (h : (every client timeout interval hash a).Silent)
    (hreached : (every client timeout interval hash a).Reached k) :
    (every client timeout interval hash a).pollEnd k ≤
      (every client timeout interval hash a).deadline := by
  rw [pollEnd, (h k).2]
  exact hreached.start_le

/-- The polls of a silent client, all of them answered. -/
theorem Silent.made_eq (h : (every client timeout interval hash a).Silent) {wait : Duration}
    {r : Except CheckError Receipt} {now : Nat} {made : List Call}
    (hfollows : (every client timeout interval hash a).Follows wait r now made) :
    made = (List.range (timeout / max interval 1 + 1)).map fun k =>
      ⟨a.now + k * max interval 1, .receipt hash, some (.ok none)⟩ := by
  apply List.ext_getElem
  · rw [List.length_map, List.length_range]
    have hiff (k : Nat) : k < made.length ↔ k < timeout / max interval 1 + 1 :=
      (hfollows.length_iff k).trans (h.reached_iff k)
    have hlt := hiff made.length
    have hgt := hiff (timeout / max interval 1 + 1)
    omega
  · intro k hk hlt
    have hc := List.getElem?_eq_getElem hk
    rw [List.getElem_map, List.getElem_range, ← h.poll_eq]
    rcases hfollows.poll k _ hc with ⟨hpoll, -⟩ | ⟨-, hlate⟩
    · exact hpoll
    · have hend := h.pollEnd_le_deadline (hfollows.reached hc)
      omega

end

end Wait

/-- With whole milliseconds between the polls, at most thirty years of them: a wait for a receipt
is over within its timeout, whatever the client does. It makes at least one poll and no more than
are due by then, each of them when it is due or later and after the one before has been answered;
and exactly those, each when it is due, if the client is silent. -/
theorem waitForReceipt_bounded {timeout interval : Nat}
    (hinterval : interval ≤ 30 * 365 * 86400 * 1000) (client : Client σ) (hash : TxHash)
    (s : Session σ) :
    let w := Wait.every client timeout interval hash s.moment
    let period := max interval 1
    let after := ((waitForReceipt client hash
      ⟨.ofMilliseconds timeout, .ofMilliseconds interval⟩).run s).2
    s.now ≤ after.now ∧ after.now ≤ s.now + timeout ∧
    ∃ made, after.calls.toList = s.calls.toList ++ made ∧
      1 ≤ made.length ∧ made.length ≤ timeout / period + 1 ∧
      (∀ k c, made[k]? = some c →
        c.query = .receipt hash ∧ s.now + k * period ≤ c.start ∧ c.start ≤ s.now + timeout) ∧
      (∀ k c d, made[k]? = some c → made[k + 1]? = some d →
        c = w.poll k ∧ w.pollEnd k ≤ d.start) ∧
      (w.Silent → made = (List.range (timeout / period + 1)).map fun k =>
        ⟨s.now + k * period, .receipt hash, some (.ok none)⟩) := by
  have hw : WaitPolicy.wait ⟨.ofMilliseconds timeout, .ofMilliseconds interval⟩ client hash
      s.memory s.now = Wait.every client timeout interval hash s.moment :=
    WaitPolicy.wait_eq_every hinterval client hash s.moment
  obtain ⟨made, hcalls, hfollows⟩ := waitForReceipt_follows client hash
    ⟨.ofMilliseconds timeout, .ofMilliseconds interval⟩ s
  rw [hw] at hfollows
  refine ⟨hfollows.start_le_now Wait.every_regular, hfollows.now_le_deadline, made, hcalls,
    hfollows.length_pos Wait.every_regular, hfollows.length_le, ?_, ?_, ?_⟩
  · intro k c hc
    obtain ⟨hquery, hstart⟩ := hfollows.call hc
    refine ⟨hquery, ?_, ?_⟩
    · rw [hstart]
      exact Wait.mul_period_le_pollStart (a := s.moment) k
    · rw [hstart]
      exact (hfollows.reached hc).start_le
  · intro k c d hc hd
    exact hfollows.answered hc hd
  · intro hsilent
    exact hsilent.made_eq hfollows

namespace Script

/-- A network that never includes a transfer. -/
def mute : Script := taking [⟨.ok none, 0⟩]

theorem mute_silent (timeout interval : Nat) :
    (Wait.every client timeout interval ⟨7⟩ (Session.start mute).moment).Silent := by
  have hmemory (k : Nat) :
      ((Wait.every client timeout interval ⟨7⟩ (Session.start mute).moment).before k).1 = mute := by
    induction k with
    | zero => rfl
    | succ k ih =>
      rw [Wait.before_succ_fst, ih]
      rfl
  intro k
  rw [Wait.reply, hmemory k]
  exact ⟨rfl, rfl⟩

/-- Two intervals fit into five milliseconds, so three polls are made. -/
theorem waitForReceipt_mute :
    2 ≤ 30 * 365 * 86400 * 1000 ∧
    (Wait.every client 5 2 ⟨7⟩ (Session.start mute).moment).Silent ∧
    ((waitForReceipt client ⟨7⟩ ⟨.ofMilliseconds 5, .ofMilliseconds 2⟩).run
      (Session.start mute)).2.calls.toList =
        [⟨0, .receipt ⟨7⟩, some (.ok none)⟩, ⟨2, .receipt ⟨7⟩, some (.ok none)⟩,
          ⟨4, .receipt ⟨7⟩, some (.ok none)⟩] := by
  have hinterval : 2 ≤ 30 * 365 * 86400 * 1000 := by decide
  obtain ⟨-, -, made, hcalls, -, -, -, -, hmade⟩ :=
    @waitForReceipt_bounded Script 5 2 hinterval client ⟨7⟩ (Session.start mute)
  rw [hmade (mute_silent 5 2)] at hcalls
  exact ⟨hinterval, mute_silent 5 2, hcalls⟩

end Script

end Devnet
