namespace Devnet

/-- Rows in strictly rising order of their names. -/
@[ext] structure NameTable (α : Type) where
  rows : List (String × α)
  sorted : rows.Pairwise fun a b => a.1 < b.1

namespace NameTable

def empty {α : Type} : NameTable α := ⟨[], .nil⟩

/-- Puts a row in its place, instead of the row of that name if there is one. -/
def insertRow {α : Type} (name : String) (v : α) : List (String × α) → List (String × α)
  | [] => [(name, v)]
  | (n, w) :: rows =>
    if name < n then (name, v) :: (n, w) :: rows
    else if name = n then (name, v) :: rows
    else (n, w) :: insertRow name v rows

theorem mem_insertRow {α : Type} {name : String} {v : α} {rows : List (String × α)}
    {r : String × α} (h : r ∈ insertRow name v rows) : r = (name, v) ∨ r ∈ rows := by
  induction rows with
  | nil => simpa [insertRow] using h
  | cons row rows ih =>
    obtain ⟨n, w⟩ := row
    unfold insertRow at h
    split at h
    · simpa using h
    · split at h
      · rcases List.mem_cons.mp h with h | h
        · exact .inl h
        · exact .inr (List.mem_cons_of_mem _ h)
      · rcases List.mem_cons.mp h with h | h
        · exact .inr (h ▸ List.mem_cons_self ..)
        · exact (ih h).imp_right (List.mem_cons_of_mem _)

theorem lt_of_not_lt_of_ne {a b : String} (h : ¬ a < b) (hne : a ≠ b) : b < a := by
  rcases Std.le_total (a := a) (b := b) with hab | hba
  · exact absurd (Std.lt_of_le_of_ne hab hne) h
  · exact Std.lt_of_le_of_ne hba (Ne.symm hne)

theorem sorted_insertRow {α : Type} (name : String) (v : α) {rows : List (String × α)}
    (h : rows.Pairwise fun a b => a.1 < b.1) :
    (insertRow name v rows).Pairwise fun a b => a.1 < b.1 := by
  induction rows with
  | nil => simp [insertRow]
  | cons row rows ih =>
    obtain ⟨n, w⟩ := row
    have hrows := (List.pairwise_cons.mp h).2
    have hn := (List.pairwise_cons.mp h).1
    unfold insertRow
    split
    · rename_i hlt
      refine List.pairwise_cons.mpr ⟨fun r hr => ?_, h⟩
      rcases List.mem_cons.mp hr with hr | hr
      · exact hr ▸ hlt
      · exact Std.lt_trans hlt (hn r hr)
    · split
      · rename_i heq
        exact List.pairwise_cons.mpr ⟨fun r hr => heq ▸ hn r hr, hrows⟩
      · rename_i hlt hne
        refine List.pairwise_cons.mpr ⟨fun r hr => ?_, ih hrows⟩
        rcases mem_insertRow hr with hr | hr
        · exact hr ▸ lt_of_not_lt_of_ne hlt hne
        · exact hn r hr

def insert {α : Type} (name : String) (v : α) (t : NameTable α) : NameTable α :=
  ⟨insertRow name v t.rows, sorted_insertRow name v t.sorted⟩

def get? {α : Type} (t : NameTable α) (name : String) : Option α := t.rows.lookup name

def names {α : Type} (t : NameTable α) : List String := t.rows.map (·.1)

theorem lookup_insertRow {α : Type} (name other : String) (v : α) (rows : List (String × α)) :
    (insertRow name v rows).lookup other =
      if other = name then some v else rows.lookup other := by
  induction rows with
  | nil =>
    by_cases h : other = name
    · simp [insertRow, h]
    · simp [insertRow, List.lookup_cons, h, beq_false_of_ne h]
  | cons row rows ih =>
    obtain ⟨n, w⟩ := row
    unfold insertRow
    by_cases h : other = name
    · subst h
      split
      · simp
      · split
        · simp
        · rename_i hne
          simp [List.lookup_cons, beq_false_of_ne hne, ih]
    · split
      · simp [List.lookup_cons, beq_false_of_ne h]
      · split
        · rename_i heq
          subst heq
          simp [List.lookup_cons, beq_false_of_ne h]
        · cases hb : other == n <;> simp [List.lookup_cons, hb, ih, h]

theorem get_insert {α : Type} (t : NameTable α) (name other : String) (v : α) :
    (t.insert name v).get? other = if other = name then some v else t.get? other :=
  lookup_insertRow name other v t.rows

end NameTable

end Devnet
