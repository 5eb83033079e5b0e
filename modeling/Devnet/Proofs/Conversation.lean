import Devnet.Client

namespace Devnet

section Steps

variable {ε τ α β : Type}

theorem run_bind (x : ExceptT ε (StateM τ) α) (f : α → ExceptT ε (StateM τ) β) (s : τ) :
    (x >>= f).run s = match x.run s with
      | (.ok a, s) => (f a).run s
      | (.error e, s) => (.error e, s) := by
  show StateT.bind x (ExceptT.bindCont f) s = _
  unfold StateT.bind
  simp only [bind, ExceptT.run]
  cases h : x s with
  | mk r s => cases r <;> rfl

theorem run_bind_of_ok {x : ExceptT ε (StateM τ) α} {f : α → ExceptT ε (StateM τ) β} {s t : τ}
    {a : α} (h : x.run s = (.ok a, t)) : (x >>= f).run s = (f a).run t := by
  rw [run_bind, h]

theorem run_bind_of_error {x : ExceptT ε (StateM τ) α} {f : α → ExceptT ε (StateM τ) β} {s t : τ}
    {e : ε} (h : x.run s = (.error e, t)) : (x >>= f).run s = (.error e, t) := by
  rw [run_bind, h]

end Steps

variable {σ : Type}

/-- A place in a conversation: the client's memory and the clock. -/
structure Moment (σ : Type) where
  memory : σ
  now : Nat

def Session.moment (s : Session σ) : Moment σ := ⟨s.memory, s.now⟩

/-- What is known of a session: the client's memory, the clock and the calls recorded so far. -/
structure Session.Stands (s : Session σ) (memory : σ) (now : Nat) (calls : List Call) : Prop where
  memory : s.memory = memory
  now : s.now = now
  calls : s.calls.toList = calls

/-- The client, asked the recorded questions at the recorded times, gives the recorded answers, and
the conversation goes from the first moment to the last. Time passes while an answer is awaited and,
at will, after it has come. An answer that is not recorded would have come later than the moment at
which it is given up, and the conversation goes on from that moment. -/
inductive Client.Hears (client : Client σ) : Moment σ → List Call → Moment σ → Prop where
  | nothing (a : Moment σ) : client.Hears a [] a
  | answered {m : σ} {start next : Nat} {calls : List Call} {b : Moment σ} (q : Query)
      (passes : start + (client.reply q m).1.delay ≤ next)
      (rest : client.Hears ⟨(client.reply q m).2, next⟩ calls b) :
      client.Hears ⟨m, start⟩ (⟨start, q, some (client.reply q m).1.result⟩ :: calls) b
  | dropped {m : σ} {start limit : Nat} {calls : List Call} {b : Moment σ} (q : Query)
      (begun : start ≤ limit) (late : limit < start + (client.reply q m).1.delay)
      (rest : client.Hears ⟨(client.reply q m).2, limit⟩ calls b) :
      client.Hears ⟨m, start⟩ (⟨start, q, none⟩ :: calls) b

theorem Client.Hears.append {client : Client σ} {a b c : Moment σ} {as bs : List Call}
    (ha : client.Hears a as b) (hb : client.Hears b bs c) : client.Hears a (as ++ bs) c := by
  induction ha with
  | nothing => exact hb
  | answered q passes _ ih => exact .answered q passes (ih hb)
  | dropped q begun late _ ih => exact .dropped q begun late (ih hb)

theorem Client.Hears.of_reply {client : Client σ} {q : Query} {m n : σ} {b : Moment σ}
    {calls : List Call} {r : Reply q.Answer} {start : Nat} (h : client.reply q m = (r, n))
    (rest : client.Hears ⟨n, start + r.delay⟩ calls b) :
    client.Hears ⟨m, start⟩ (⟨start, q, some r.result⟩ :: calls) b := by
  have hrest : client.Hears
      ⟨(client.reply q m).2, start + (client.reply q m).1.delay⟩ calls b := by rw [h]; exact rest
  have hears := Client.Hears.answered q (Nat.le_refl _) hrest
  rwa [h] at hears

namespace Session

theorem stands_self (s : Session σ) : s.Stands s.memory s.now s.calls.toList := ⟨rfl, rfl, rfl⟩

theorem Stands.noted {s : Session σ} {memory : σ} {now : Nat} {calls : List Call}
    (h : s.Stands memory now calls) (l : LogLine) : (s.noted l).Stands memory now calls :=
  ⟨h.memory, h.now, h.calls⟩

theorem Stands.moment {s : Session σ} {memory : σ} {now : Nat} {calls : List Call}
    (h : s.Stands memory now calls) : s.moment = ⟨memory, now⟩ := by
  rw [Session.moment, h.memory, h.now]

@[simp] theorem moment_noted (s : Session σ) (l : LogLine) : (s.noted l).moment = s.moment := rfl

end Session

namespace Action

theorem run_ask (client : Client σ) (q : Query) (s : Session σ) :
    (Action.ask client q).run s = s.ask client q := rfl

theorem run_note (l : LogLine) (s : Session σ) :
    (Action.note l).run s = (.ok (), s.noted l) := rfl

theorem run_lift {α : Type} (r : Except CheckError α) (s : Session σ) :
    (liftM r : Action σ α).run s = (r, s) := by
  cases r <;> rfl

theorem run_ask_of_reply {client : Client σ} {q : Query} {s : Session σ} {memory : σ}
    {now : Nat} {calls : List Call} {r : Reply q.Answer} {m : σ}
    (hs : s.Stands memory now calls) (hreply : client.reply q memory = (r, m)) :
    ∃ t, (Action.ask client q).run s = (r.result, t) ∧
      t.Stands m (now + r.delay) (calls ++ [⟨now, q, some r.result⟩]) := by
  obtain ⟨rfl, rfl, rfl⟩ := hs
  rw [run_ask, Session.ask, hreply]
  exact ⟨_, rfl, rfl, rfl, Array.toList_push⟩

variable {α β : Type} {client : Client σ} {Allowed : Query → Prop}

/-- From every state, the steps ask the client only what is allowed. -/
def AsksOnly (client : Client σ) (Allowed : Query → Prop) (x : Action σ α) : Prop :=
  ∀ s, ∃ calls, client.Hears s.moment calls (x.run s).2.moment ∧ ∀ c ∈ calls, Allowed c.query

theorem asksOnly_of_moment {x : Action σ α} (h : ∀ s, (x.run s).2.moment = s.moment) :
    AsksOnly client Allowed x := by
  intro s
  rw [h s]
  exact ⟨[], .nothing _, fun c hc => absurd hc List.not_mem_nil⟩

theorem asksOnly_pure (v : α) : AsksOnly client Allowed (pure v : Action σ α) :=
  asksOnly_of_moment fun _ => rfl

theorem asksOnly_note (l : LogLine) : AsksOnly client Allowed (note l : Action σ Unit) :=
  asksOnly_of_moment fun _ => rfl

theorem asksOnly_lift (r : Except CheckError α) :
    AsksOnly client Allowed (liftM r : Action σ α) :=
  asksOnly_of_moment fun s => by rw [run_lift]

theorem asksOnly_ask {q : Query} (h : Allowed q) : AsksOnly client Allowed (ask client q) := by
  intro s
  refine ⟨[⟨s.now, q, some (client.reply q s.memory).1.result⟩],
    .answered q (Nat.le_refl _) (.nothing _), fun c hc => ?_⟩
  rw [List.mem_singleton.mp hc]
  exact h

theorem AsksOnly.bind {x : Action σ α} {f : α → Action σ β} (hx : AsksOnly client Allowed x)
    (hf : ∀ v, AsksOnly client Allowed (f v)) : AsksOnly client Allowed (x >>= f) := by
  intro s
  obtain ⟨calls, hears, hcalls⟩ := hx s
  rcases hrun : x.run s with ⟨e | v, t⟩
  · rw [hrun] at hears
    rw [run_bind_of_error hrun]
    exact ⟨calls, hears, hcalls⟩
  · rw [hrun] at hears
    rw [run_bind_of_ok hrun]
    obtain ⟨rest, hrest, hallowed⟩ := hf v t
    refine ⟨calls ++ rest, hears.append hrest, fun c hc => ?_⟩
    rcases List.mem_append.mp hc with hc | hc
    · exact hcalls c hc
    · exact hallowed c hc

end Action

end Devnet
