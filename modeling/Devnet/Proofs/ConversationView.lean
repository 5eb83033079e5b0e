import Devnet.Proofs.RunParts

namespace Devnet

variable {σ τ α β : Type}

def Query.ofTransfer : Query → Bool
  | .send _ | .receipt _ | .transaction _ => true
  | _ => false

/-- The same call, asked that much later. -/
def Call.later (ahead : Nat) (c : Call) : Call := { c with start := c.start + ahead }

/-- How a conversation shows elsewhere: its memory in another one, its clock ahead, and its record
after what was recorded before. -/
structure View (σ τ : Type) where
  memory : σ → τ
  ahead : Nat
  calls : Array Call
  log : Array LogLine

namespace View

def of (v : View σ τ) (s : Session σ) : Session τ :=
  ⟨v.memory s.memory, s.now + v.ahead, v.calls ++ s.calls.map (Call.later v.ahead),
    v.log ++ s.log⟩

/-- The question is answered alike in the view, and the memories stay in step. -/
def Keeps (v : View σ τ) (client : Client σ) (other : Client τ) (q : Query) : Prop :=
  ∀ m, other.reply q (v.memory m) = ((client.reply q m).1, v.memory (client.reply q m).2)

/-- What the first steps do, the second do in the view. -/
def Shows (v : View σ τ) (x : Action σ α) (y : Action τ α) : Prop :=
  ∀ s, y.run (v.of s) = ((x.run s).1, v.of (x.run s).2)

variable (v : View σ τ) {client : Client σ} {other : Client τ}

theorem of_noted (s : Session σ) (l : LogLine) : v.of (s.noted l) = (v.of s).noted l := by
  simp [of, Session.noted]

theorem of_movedTo (s : Session σ) (now : Nat) :
    v.of (s.movedTo now) = (v.of s).movedTo (now + v.ahead) := rfl

theorem shows_ask {q : Query} (h : v.Keeps client other q) :
    v.Shows (.ask client q) (.ask other q) := by
  intro s
  rw [Action.run_ask, Action.run_ask, Session.ask, Session.ask]
  have hreply : other.reply q (v.of s).memory =
      ((client.reply q s.memory).1, v.memory (client.reply q s.memory).2) := h s.memory
  rw [hreply]
  simp [of, Call.later, Nat.add_right_comm]

theorem shows_note (l : LogLine) :
    v.Shows (.note l : Action σ Unit) (.note l : Action τ Unit) :=
  fun s => congrArg (Prod.mk _) (v.of_noted s l).symm

theorem shows_lift (r : Except CheckError α) :
    v.Shows (liftM r : Action σ α) (liftM r : Action τ α) := by
  intro s
  rw [Action.run_lift, Action.run_lift]

theorem shows_pure (a : α) : v.Shows (pure a : Action σ α) (pure a : Action τ α) :=
  fun _ => rfl

theorem shows_throw (e : CheckError) :
    v.Shows (throw e : Action σ α) (throw e : Action τ α) :=
  fun _ => rfl

variable {v}

theorem Shows.bind {x : Action σ α} {y : Action τ α} {f : α → Action σ β} {g : α → Action τ β}
    (hx : v.Shows x y) (hf : ∀ a, v.Shows (f a) (g a)) : v.Shows (x >>= f) (y >>= g) := by
  intro s
  rcases hrun : x.run s with ⟨e | a, t⟩
  · have hy : y.run (v.of s) = (.error e, v.of t) := by rw [hx s, hrun]
    rw [run_bind_of_error hrun, run_bind_of_error hy]
  · have hy : y.run (v.of s) = (.ok a, v.of t) := by rw [hx s, hrun]
    rw [run_bind_of_ok hrun, run_bind_of_ok hy]
    exact hf a t

variable (v)

def ofPoll : Poll σ → Poll τ
  | .late s => .late (v.of s)
  | .answered r left s => .answered r left (v.of s)

theorem leftInTurn_ahead (now due left ahead : Nat) :
    leftInTurn (now + ahead) (due + ahead) left = leftInTurn now due left := by
  simp only [leftInTurn, Nat.add_lt_add_iff_right]

theorem pollReceipt_of {hash : TxHash} (h : v.Keeps client other (.receipt hash))
    (deadline due left : Nat) (s : Session σ) :
    pollReceipt other hash (deadline + v.ahead) (due + v.ahead) left (v.of s) =
      v.ofPoll (pollReceipt client hash deadline due left s) := by
  have hnow : (v.of s).now = s.now + v.ahead := rfl
  have hstart : max (due + v.ahead) (s.now + v.ahead) = max due s.now + v.ahead :=
    Nat.add_max_add_right due s.now v.ahead
  have hother : other.reply (.receipt hash) (v.of s).memory = _ := h s.memory
  rcases hreply : client.reply (.receipt hash) s.memory with ⟨r, m⟩
  rw [hreply] at hother
  unfold pollReceipt
  simp only [hother, hreply, hnow, hstart, leftInTurn_ahead]
  by_cases hpassed : deadline < max due s.now
  · rw [if_pos hpassed, if_pos (by omega)]
    rfl
  · rw [if_neg hpassed, if_neg (by omega)]
    by_cases hused : left = 0 ∧ due ≤ s.now ∧ deadline ≤ s.now
    · rw [if_pos hused, if_pos (by omega)]
      rfl
    · rw [if_neg hused, if_neg (by omega)]
      by_cases hlate : deadline < max due s.now + r.delay
      · rw [if_pos hlate, if_pos (by omega)]
        simp [ofPoll, of, Call.later]
      · rw [if_neg hlate, if_neg (by omega)]
        simp [ofPoll, of, Call.later, Nat.add_right_comm]

theorem due_ahead (p : WaitPolicy) (start ahead k : Nat) :
    p.due (start + ahead) k = p.due start k + ahead := Nat.add_right_comm ..

theorem deadline_ahead (p : WaitPolicy) (start ahead : Nat) :
    p.deadline (start + ahead) = p.deadline start + ahead := Nat.add_right_comm ..

theorem pollFrom_of {hash : TxHash} (h : v.Keeps client other (.receipt hash)) (p : WaitPolicy)
    (start fuel k left : Nat) (s : Session σ) :
    pollFrom other hash p (start + v.ahead) fuel k left (v.of s) =
      ((pollFrom client hash p start fuel k left s).1,
        v.of (pollFrom client hash p start fuel k left s).2) := by
  induction fuel generalizing k left s with
  | zero =>
    unfold pollFrom
    rw [deadline_ahead, of_movedTo]
  | succ fuel ih =>
    unfold pollFrom
    rw [deadline_ahead, due_ahead, v.pollReceipt_of h]
    cases pollReceipt client hash (p.deadline start) (p.due start k) left s with
    | late t => rfl
    | answered r n t =>
      rcases r with e | (_ | receipt)
      · rfl
      · dsimp only [ofPoll]
        rw [← of_noted]
        exact ih (k + 1) n _
      · rfl

theorem shows_waitForReceipt {hash : TxHash} (h : v.Keeps client other (.receipt hash))
    (p : WaitPolicy) : v.Shows (waitForReceipt client hash p) (waitForReceipt other hash p) := by
  intro s
  rw [waitForReceipt_run, waitForReceipt_run]
  exact v.pollFrom_of h p s.now p.pollLimit 0 turnLimit s

/-- A transfer check is the same in every view that keeps the answers to its questions. -/
theorem shows_checkTransfer (h : ∀ q : Query, q.ofTransfer = true → v.Keeps client other q)
    (intent : TransferIntent) (p : WaitPolicy) :
    v.Shows (checkTransfer client intent p) (checkTransfer other intent p) := by
  rw [checkTransfer_eq, checkTransfer_eq]
  have hfetched (hash : TxHash) (receipt : Receipt) :
      v.Shows (checkFetched client intent hash receipt)
        (checkFetched other intent hash receipt) := by
    refine (v.shows_ask (h _ rfl)).bind fun record => ?_
    cases record with
    | none => exact v.shows_throw _
    | some record =>
      exact (v.shows_lift _).bind fun outcome => (v.shows_note _).bind fun _ => v.shows_pure _
  exact (v.shows_ask (h _ rfl)).bind fun hash => (v.shows_note _).bind fun _ =>
    (v.shows_waitForReceipt (h _ rfl) p).bind fun receipt => hfetched hash receipt

theorem record_of {x : Action σ α} {y : Action τ α} (h : v.Shows x y) (name : String)
    (detail : α → Detail) (s : Session σ) :
    (Suite.record name detail y).run (v.of s) =
      (((Suite.record name detail x).run s).1, v.of ((Suite.record name detail x).run s).2) := by
  change Suite.record name detail y (v.of s) =
    ((Suite.record name detail x s).1, v.of (Suite.record name detail x s).2)
  unfold Suite.record
  rw [h s]
  rcases x.run s with ⟨e | a, t⟩
  · exact congrArg (Prod.mk _) (v.of_noted t _).symm
  · rfl

end View

end Devnet
