import Mathlib.Data.List.Forall2

namespace Devnet

variable {α β γ ε ε' : Type}

theorem toOption_eq_some_iff {x : Except ε α} {a : α} : x.toOption = some a ↔ x = .ok a := by
  cases x <;> simp [Except.toOption]

theorem bind_eq_ok_iff {x : Except ε α} {f : α → Except ε β} {b : β} :
    x >>= f = .ok b ↔ ∃ a, x = .ok a ∧ f a = .ok b := by
  cases x <;> simp [bind, Except.bind]

theorem map_eq_ok_iff {x : Except ε α} {f : α → β} {b : β} :
    x.map f = .ok b ↔ ∃ a, x = .ok a ∧ f a = b := by
  cases x <;> simp [Except.map]

theorem toOption_ok (a : α) : (.ok a : Except ε α).toOption = some a := rfl

theorem toOption_pure (a : α) : (pure a : Except ε α).toOption = some a := rfl

theorem toOption_bind (x : Except ε α) (f : α → Except ε β) :
    (x >>= f).toOption = x.toOption.bind fun a => (f a).toOption := by
  cases x <;> rfl

theorem toOption_map (x : Except ε α) (f : α → β) : (x.map f).toOption = x.toOption.map f := by
  cases x <;> rfl

theorem toOption_mapError (x : Except ε α) (f : ε → ε') :
    (x.mapError f).toOption = x.toOption := by
  cases x <;> rfl

/-- Two lists that are aligned with the same third one are aligned with each other. -/
theorem forall₂_join {R : α → β → Prop} {S : β → γ → Prop} {T : α → γ → Prop} {as : List α}
    {bs : List β} {cs : List γ} (hR : List.Forall₂ R as bs) (hS : List.Forall₂ S bs cs)
    (join : ∀ a, ∀ b ∈ bs, ∀ c, R a b → S b c → T a c) : List.Forall₂ T as cs := by
  induction hR generalizing cs with
  | nil =>
    cases hS
    exact .nil
  | @cons a b _ bs hab _ ih =>
    cases hS with
    | @cons _ c _ _ hbc hS =>
      exact .cons (join a b List.mem_cons_self c hab hbc)
        (ih hS fun a' b' hb' => join a' b' (List.mem_cons_of_mem b hb'))

theorem names_of_forall₂ {R : String × α → String × β → Prop}
    (hR : ∀ a b, R a b → a.1 = b.1) {as : List (String × α)} {bs : List (String × β)}
    (h : List.Forall₂ R as bs) : as.map (·.1) = bs.map (·.1) := by
  have hnames : List.Forall₂ (· = ·) (as.map (·.1)) (bs.map (·.1)) := List.rel_map hR h
  rwa [List.forall₂_eq_eq_eq] at hnames

theorem exists_of_mem_forall₂ {R : α → β → Prop} {as : List α} {bs : List β}
    (h : List.Forall₂ R as bs) {a : α} (ha : a ∈ as) : ∃ b ∈ bs, R a b := by
  induction h with
  | nil => cases ha
  | @cons x b _ bs hxb _ ih =>
    rcases List.mem_cons.mp ha with rfl | ha
    · exact ⟨b, List.mem_cons_self, hxb⟩
    · obtain ⟨c, hc, hac⟩ := ih ha
      exact ⟨c, List.mem_cons_of_mem _ hc, hac⟩

/-- A list is read if each of its elements is, in their order. -/
theorem mapM_eq_ok_iff {f : α → Except ε β} {l : List α} {vs : List β} :
    l.mapM f = .ok vs ↔ List.Forall₂ (fun x v => f x = .ok v) l vs := by
  induction l generalizing vs with
  | nil =>
    rw [List.mapM_nil, List.forall₂_nil_left_iff]
    exact ⟨fun h => (Except.ok.inj h).symm, fun h => congrArg Except.ok h.symm⟩
  | cons x l ih =>
    rw [List.mapM_cons, bind_eq_ok_iff, List.forall₂_cons_left_iff]
    simp only [bind_eq_ok_iff, ih]
    constructor
    · rintro ⟨v, hx, rest, hl, h⟩
      exact ⟨v, rest, hx, hl, (Except.ok.inj h).symm⟩
    · rintro ⟨v, rest, hx, hl, rfl⟩
      exact ⟨v, hx, rest, hl, rfl⟩

theorem mapM_of_first {f : α → Except ε β} {before after : List α} {x : α} {e : ε}
    (hbefore : ∀ y ∈ before, ∃ v, f y = .ok v) (hx : f x = .error e) :
    (before ++ x :: after).mapM f = .error e := by
  induction before with
  | nil =>
    rw [List.nil_append, List.mapM_cons, hx]
    rfl
  | cons y before ih =>
    obtain ⟨⟨v, hy⟩, hrest⟩ := List.forall_mem_cons.mp hbefore
    rw [List.cons_append, List.mapM_cons, hy, ih hrest]
    rfl

/-- The error is that of the first element that gives one. -/
theorem mapM_eq_error_iff {f : α → Except ε β} {l : List α} {e : ε} :
    l.mapM f = .error e ↔ ∃ before x after, l = before ++ x :: after ∧
      (∀ y ∈ before, ∃ v, f y = .ok v) ∧ f x = .error e := by
  constructor
  · intro h
    induction l with
    | nil => cases h
    | cons x l ih =>
      rw [List.mapM_cons] at h
      cases hx : f x with
      | error d =>
        rw [hx] at h
        cases h
        exact ⟨[], x, l, rfl, fun y hy => absurd hy List.not_mem_nil, hx⟩
      | ok v =>
        rw [hx] at h
        cases hl : l.mapM f with
        | ok rest =>
          rw [hl] at h
          cases h
        | error d =>
          rw [hl] at h
          cases h
          obtain ⟨before, y, after, rfl, hbefore, hy⟩ := ih hl
          exact ⟨x :: before, y, after, rfl, List.forall_mem_cons.mpr ⟨⟨v, hx⟩, hbefore⟩, hy⟩
  · rintro ⟨before, x, after, rfl, hbefore, hx⟩
    exact mapM_of_first hbefore hx

end Devnet
