import Devnet.Check.Transfer
import Mathlib.Data.Nat.Basic
import Mathlib.Order.Basic
import Mathlib.Tactic.ByContra

namespace Devnet

/-- A wait for a receipt: who is asked, from which memory and time on, and when polls are due. -/
structure Wait (σ : Type) where
  client : Client σ
  hash : TxHash
  memory : σ
  start : Nat
  due : Nat → Nat
  deadline : Nat

def WaitPolicy.wait {σ : Type} (p : WaitPolicy) (client : Client σ) (hash : TxHash) (memory : σ)
    (start : Nat) : Wait σ :=
  ⟨client, hash, memory, start, p.due start, p.deadline start⟩

namespace Wait

variable {σ : Type} (w : Wait σ)

/-- The memory and the clock when the first `k` polls have been answered. -/
def before : Nat → σ × Nat
  | 0 => (w.memory, w.start)
  | k + 1 =>
    let (memory, now) := before k
    let (r, memory) := w.client.reply (.receipt w.hash) memory
    (memory, max (w.due k) now + r.delay)

def reply (k : Nat) : Reply (Option Receipt) :=
  (w.client.reply (.receipt w.hash) (w.before k).1).1

def pollStart (k : Nat) : Nat := max (w.due k) (w.before k).2

def pollEnd (k : Nat) : Nat := w.pollStart k + (w.reply k).delay

def Pending (n : Nat) : Prop := ∀ k, k < n → (w.reply k).result = .ok none

/-- Poll number `n` is made: nothing was found before, it begins by the deadline, and it is not
one too many of those that begin at the deadline itself. -/
structure Reached (n : Nat) : Prop where
  pending : w.Pending n
  start_le : w.pollStart n ≤ w.deadline
  turn : turnLimit ≤ n + 1 → w.pollStart (n + 1 - turnLimit) < w.deadline

/-- A clock that can be waited by: the first poll is due at once and each other one later than the
one before. -/
structure Regular : Prop where
  due_zero : w.due 0 = w.start
  due_lt : ∀ k, w.due k < w.due (k + 1)
  start_le : w.start ≤ w.deadline

def poll (k : Nat) : Call := ⟨w.pollStart k, .receipt w.hash, some (w.reply k).result⟩

/-- The record of a poll whose answer is not waited for. -/
def openPoll (k : Nat) : Call := ⟨w.pollStart k, .receipt w.hash, none⟩

def polls (n : Nat) : List Call := (List.range n).map w.poll

@[simp] theorem before_succ_fst (k : Nat) :
    (w.before (k + 1)).1 = (w.client.reply (.receipt w.hash) (w.before k).1).2 := rfl

@[simp] theorem before_succ_snd (k : Nat) : (w.before (k + 1)).2 = w.pollEnd k := rfl

theorem polls_succ (n : Nat) : w.polls (n + 1) = w.polls n ++ [w.poll n] := by
  simp [polls, List.range_succ]

theorem length_polls (n : Nat) : (w.polls n).length = n := by simp [polls]

theorem getElem?_polls {n k : Nat} (h : k < n) : (w.polls n)[k]? = some (w.poll k) := by
  rw [polls, List.getElem?_map, List.getElem?_range h]
  rfl

theorem due_le_pollStart (k : Nat) : w.due k ≤ w.pollStart k := Nat.le_max_left ..

theorem before_le_pollStart (k : Nat) : (w.before k).2 ≤ w.pollStart k := Nat.le_max_right ..

theorem pollStart_le_pollEnd (k : Nat) : w.pollStart k ≤ w.pollEnd k := Nat.le_add_right ..

theorem pollEnd_le_pollStart {j k : Nat} (h : j < k) : w.pollEnd j ≤ w.pollStart k := by
  induction k with
  | zero => omega
  | succ k ih =>
    have hk : w.pollEnd k ≤ w.pollStart (k + 1) := w.before_le_pollStart (k + 1)
    rcases Nat.lt_succ_iff_lt_or_eq.mp h with h | rfl
    · exact ((ih h).trans (w.pollStart_le_pollEnd k)).trans hk
    · exact hk

theorem pollStart_mono {j k : Nat} (h : j ≤ k) : w.pollStart j ≤ w.pollStart k := by
  rcases Nat.lt_or_eq_of_le h with h | rfl
  · exact (w.pollStart_le_pollEnd j).trans (w.pollEnd_le_pollStart h)
  · exact le_refl _

theorem pollStart_le_before {j k : Nat} (h : j < k) : w.pollStart j ≤ (w.before k).2 := by
  obtain ⟨n, rfl⟩ : ∃ n, k = n + 1 := ⟨k - 1, by omega⟩
  exact (w.pollStart_mono (by omega)).trans (w.pollStart_le_pollEnd n)

theorem Pending.of_le {w : Wait σ} {m n : Nat} (h : w.Pending n) (hle : m ≤ n) : w.Pending m :=
  fun k hk => h k (by omega)

theorem Pending.succ {w : Wait σ} {n : Nat} (h : w.Pending n)
    (hn : (w.reply n).result = .ok none) : w.Pending (n + 1) := by
  intro k hk
  rcases Nat.lt_succ_iff_lt_or_eq.mp hk with hk | rfl
  · exact h k hk
  · exact hn

/-- A poll that finds something ends every wait that lasts until then. -/
theorem Pending.le {w : Wait σ} {m n : Nat} (h : w.Pending m)
    (hn : (w.reply n).result ≠ .ok none) : m ≤ n := by
  by_contra hlt
  exact hn (h n (by omega))

theorem Reached.of_le {w : Wait σ} {m n : Nat} (h : w.Reached n) (hle : m ≤ n) : w.Reached m where
  pending := h.pending.of_le hle
  start_le := (w.pollStart_mono hle).trans h.start_le
  turn hm := lt_of_le_of_lt (w.pollStart_mono (by omega)) (h.turn (by omega))

theorem Regular.due_le {w : Wait σ} (hw : w.Regular) {j k : Nat} (h : j ≤ k) :
    w.due j ≤ w.due k := by
  induction k with
  | zero =>
    obtain rfl : j = 0 := by omega
    exact le_refl _
  | succ k ih =>
    rcases Nat.lt_or_eq_of_le h with h | rfl
    · exact (ih (by omega)).trans (hw.due_lt k).le
    · exact le_refl _

theorem Regular.pollStart_zero {w : Wait σ} (hw : w.Regular) : w.pollStart 0 = w.start := by
  simp [pollStart, before, hw.due_zero]

theorem Regular.reached_zero {w : Wait σ} (hw : w.Regular) : w.Reached 0 where
  pending := by intro k hk; omega
  start_le := hw.pollStart_zero.trans_le hw.start_le
  turn h := absurd h (by decide)

end Wait

namespace WaitPolicy

theorem period_ge (p : WaitPolicy) : 1000000 ≤ p.period.nanoseconds := Nat.le_max_right ..

theorem millisecondsUp_lt {a b : Nat} (h : a + 1000000 ≤ b) :
    (Duration.mk a).millisecondsUp < (Duration.mk b).millisecondsUp := by
  simp only [Duration.millisecondsUp_eq]
  omega

theorem wait_regular {σ : Type} (p : WaitPolicy) (client : Client σ) (hash : TxHash) (memory : σ)
    (start : Nat) : (p.wait client hash memory start).Regular where
  due_zero := by simp [wait, due, Duration.millisecondsUp]
  due_lt k := by
    have hp := p.period_ge
    have hlt := millisecondsUp_lt (a := k * p.period.nanoseconds)
      (b := (k + 1) * p.period.nanoseconds) (by rw [Nat.succ_mul]; omega)
    simp only [wait, due]
    omega
  start_le := Nat.le_add_right ..

/-- The polls that are allowed for are more than can be made. -/
theorem deadline_lt_due_pollLimit (p : WaitPolicy) (start : Nat) :
    p.deadline start < p.due start p.pollLimit := by
  have hp := p.period_ge
  have hpos : 0 < p.period.nanoseconds := by omega
  have hlt : p.timeout.millisecondsUp * 1000000 < p.pollLimit * p.period.nanoseconds := by
    rw [pollLimit, Nat.mul_comm _ p.period.nanoseconds]
    exact Nat.lt_mul_div_succ _ hpos
  simp only [Duration.millisecondsUp_eq] at hlt
  simp only [deadline, due, Duration.millisecondsUp_eq]
  omega

/-- With whole milliseconds the polls are due in steps of the interval, at least one of them. -/
theorem due_ofMilliseconds {timeout interval : Nat} (h : interval ≤ 30 * 365 * 86400 * 1000)
    (start k : Nat) :
    due ⟨.ofMilliseconds timeout, .ofMilliseconds interval⟩ start k =
      start + k * max interval 1 := by
  have hperiod : (period ⟨.ofMilliseconds timeout, .ofMilliseconds interval⟩).nanoseconds =
      max interval 1 * 1000000 := by
    simp only [period, longestPeriod, Duration.ofMilliseconds, Duration.ofSeconds]
    omega
  have hk : k * (max interval 1 * 1000000) = k * max interval 1 * 1000000 :=
    (Nat.mul_assoc ..).symm
  simp only [due, hperiod, hk, Duration.millisecondsUp_eq]
  omega

theorem deadline_ofMilliseconds (timeout interval start : Nat) :
    deadline ⟨.ofMilliseconds timeout, .ofMilliseconds interval⟩ start = start + timeout := by
  rw [deadline, Duration.millisecondsUp_ofMilliseconds]

end WaitPolicy

end Devnet
