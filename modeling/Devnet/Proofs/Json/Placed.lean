import Devnet.Proofs.Json.HeldValue

namespace Devnet.Json

variable {α β γ δ : Type}

/-- How the reading goes on behind the place: for every result there it succeeds or for none, and
what it comes to has that result. -/
structure Continues (has : γ → β → Prop) (next : β → Option γ) : Prop where
  alike : ∀ b c, (next b).isSome = (next c).isSome
  has : ∀ b g, next b = some g → has g b

/-- Trees that hold values at the same place are read by reading the values, and go on alike. -/
def ReadsAt (reader : Doc → Except Complaint γ) (fill : Written → Written)
    (inner : Doc → Except Complaint β) (has : γ → β → Prop) : Prop :=
  ∀ v w d e, d.Holds (fill v) → e.Holds (fill w) →
    ∃ x y next, x.Holds v ∧ y.Holds w ∧ Continues has next ∧
      (reader d).toOption = (inner x).toOption.bind next ∧
      (reader e).toOption = (inner y).toOption.bind next

theorem continues_bind {has : γ → β → Prop} {next : α → β → Option γ}
    (h : ∀ a, Continues has (next a)) (x : Option α) :
    Continues has fun b => x.bind fun a => next a b := by
  cases x with
  | none => exact ⟨fun _ _ => rfl, fun _ _ hg => by cases hg⟩
  | some a => exact h a

theorem ReadsAt.mono {reader : Doc → Except Complaint γ} {fill : Written → Written}
    {inner : Doc → Except Complaint β} {has has' : γ → β → Prop}
    (h : ReadsAt reader fill inner has) (himp : ∀ g b, has g b → has' g b) :
    ReadsAt reader fill inner has' := by
  intro v w d e hd he
  obtain ⟨x, y, next, hx, hy, ⟨halike, hhas⟩, hreads⟩ := h v w d e hd he
  exact ⟨x, y, next, hx, hy, ⟨halike, fun b g hg => himp g b (hhas b g hg)⟩, hreads⟩

/-- A place inside a place. -/
theorem ReadsAt.comp {reader : Doc → Except Complaint δ} {middle : Doc → Except Complaint γ}
    {inner : Doc → Except Complaint β} {fill fill' : Written → Written} {has : δ → γ → Prop}
    {has' : γ → β → Prop} (h : ReadsAt reader fill middle has)
    (h' : ReadsAt middle fill' inner has') :
    ReadsAt reader (fun v => fill (fill' v)) inner fun r b => ∃ m, has r m ∧ has' m b := by
  intro v w d e hd he
  obtain ⟨x, y, next, hx, hy, hnext, hreadx, hready⟩ := h _ _ d e hd he
  obtain ⟨x', y', next', hx', hy', hnext', hreadx', hready'⟩ := h' v w x y hx hy
  refine ⟨x', y', fun b => (next' b).bind next, hx', hy', ⟨fun b c => ?_, fun b g hg => ?_⟩, ?_, ?_⟩
  · have halike := hnext'.alike b c
    cases hb : next' b with
    | none =>
      rw [hb] at halike
      have hnone : next' c = none := by simpa using halike.symm
      rw [hnone]
    | some m =>
      rw [hb] at halike
      obtain ⟨n, hn⟩ := Option.isSome_iff_exists.mp halike.symm
      rw [hn]
      exact hnext.alike m n
  · obtain ⟨m, hm, hg⟩ := Option.bind_eq_some_iff.mp hg
    exact ⟨m, hnext.has m g hg, hnext'.has b m hm⟩
  · rw [hreadx, hreadx', Option.bind_assoc]
  · rw [hready, hready', Option.bind_assoc]

/-- Where a field of a record stands: in an object under its name, in an array where it comes among
the fields. -/
inductive RecordShape.Places {σ : Type} (shape : RecordShape σ α) (f : FieldReader σ) :
    (Written → Written) → Prop where
  | member (before after : List (String × Written)) :
      Places shape f fun v => .object (before ++ (f.name, v) :: after)
  | item (before after : List Written) (position : shape.fields[before.length]? = some f) :
      Places shape f fun v => .array (before ++ v :: after)

/-- The field is read the same whatever is set elsewhere, and leaves it set. -/
structure FieldReader.Keeps {σ : Type} (g : FieldReader σ) (set : β → σ → σ) : Prop where
  isSet : ∀ b s, g.isSet (set b s) = g.isSet s
  read : ∀ depth d b s, g.read depth d (set b s) = (g.read depth d s).map (set b)

theorem FieldReader.keeps_of_set {σ : Type} {g : FieldReader σ} {set : β → σ → σ}
    {reader : Nat → Doc → Except Complaint γ} {set' : γ → σ → σ}
    (hg : ∀ depth d s, g.read depth d s = (reader depth d).map (set' · s))
    (comm : ∀ b c s, set' c (set b s) = set b (set' c s))
    (isSet : ∀ b s, g.isSet (set b s) = g.isSet s) : g.Keeps set where
  isSet := isSet
  read depth d b s := by
    rw [hg, hg]
    cases reader depth d with
    | error => rfl
    | ok c => exact congrArg Except.ok (comm b c s)

/-- The field keeps what `inner` reads in a place of its own, which the whole record has in the
end. -/
structure RecordShape.Stores {σ : Type} (shape : RecordShape σ α) (f : FieldReader σ)
    (inner : (depth : Nat) → Doc → Except Complaint β) (set : β → σ → σ)
    (has : α → β → Prop) : Prop where
  sees : ∀ g ∈ shape.fields, ∀ depth s, SeesValue fun d => g.read depth d s
  names : (shape.fields.map (·.name)).Nodup
  known : fieldOf? shape.fields f.name = some f
  read : ∀ depth d s, f.read depth d s = (inner depth d).map (set · s)
  isSet : ∀ b s, f.isSet (set b s) = true
  again : ∀ b c s, set b (set c s) = set b s
  others : ∀ g ∈ shape.fields, g.name ≠ f.name → g.Keeps set
  finish : ∀ b c s, (shape.finish (set b s)).toOption.isSome =
    (shape.finish (set c s)).toOption.isSome
  has : ∀ b s a, shape.finish (set b s) = .ok a → has a b

/-- A tree that holds an object has a row for the member, with others before and behind it. -/
theorem holds_member {d : Doc} {before after : List (String × Written)} {name : String}
    {v : Written} (h : d.Holds (.object (before ++ (name, v) :: after))) :
    ∃ members start front x back, d = .object members start ∧
      members.Lists (front ++ (name, x) :: back) ∧ List.Forall₂ RowHolds front before ∧
      x.Holds v ∧ List.Forall₂ RowHolds back after := by
  match d, h with
  | .object members start, h =>
    obtain ⟨rows, hlists, hrows⟩ := Members.Holds.lists h
    have hfront := List.forall₂_take_append _ _ _ hrows
    have hback := List.forall₂_drop_append _ _ _ hrows
    rw [← List.take_append_drop before.length rows] at hlists
    cases hrest : rows.drop before.length with
    | nil =>
      rw [hrest] at hback
      cases hback
    | cons r back =>
      rw [hrest] at hback hlists
      cases hback with
      | cons hr hback =>
        obtain ⟨n, x⟩ := r
        obtain ⟨rfl, hx⟩ := hr
        exact ⟨members, start, _, x, back, rfl, hlists, hfront, hx, hback⟩

theorem holds_item {d : Doc} {before after : List Written} {v : Written}
    (h : d.Holds (.array (before ++ v :: after))) :
    ∃ items start front x back, d = .array items start ∧ items.Lists (front ++ x :: back) ∧
      List.Forall₂ Doc.Holds front before ∧ x.Holds v ∧ List.Forall₂ Doc.Holds back after := by
  match d, h with
  | .array items start, h =>
    obtain ⟨ds, hlists, hds⟩ := Items.Holds.lists h
    have hfront := List.forall₂_take_append _ _ _ hds
    have hback := List.forall₂_drop_append _ _ _ hds
    rw [← List.take_append_drop before.length ds] at hlists
    cases hrest : ds.drop before.length with
    | nil =>
      rw [hrest] at hback
      cases hback
    | cons x back =>
      rw [hrest] at hback hlists
      cases hback with
      | cons hx hback => exact ⟨items, start, _, x, back, rfl, hlists, hfront, hx, hback⟩

namespace RecordShape.Stores

variable {σ : Type} {shape : RecordShape σ α} {f : FieldReader σ}
  {inner : (depth : Nat) → Doc → Except Complaint β} {set : β → σ → σ} {has : α → β → Prop}

/-- What is read behind the field changes nothing in its place. -/
theorem foldl_collect_set (h : shape.Stores f inner set has) (depth : Nat)
    (rows : List (String × Doc)) (b c : β) (s : σ) :
    rows.foldl (collect shape.fields depth) (some (set b s)) =
      (rows.foldl (collect shape.fields depth) (some (set c s))).map (set b) := by
  induction rows generalizing s with
  | nil => simp [h.again]
  | cons r rows ih =>
    have hnone : rows.foldl (collect shape.fields depth) none =
        (rows.foldl (collect shape.fields depth) none).map (set b) := by
      rw [foldl_collect_none]
      rfl
    simp only [List.foldl_cons, collect, Option.bind_some]
    cases hg : fieldOf? shape.fields r.1 with
    | none =>
      cases r.2.skip with
      | error => exact hnone
      | ok => exact ih s
    | some g =>
      obtain ⟨hmem, hname⟩ := fieldOf_name hg
      by_cases hf : g.name = f.name
      · obtain rfl : f = g := by
          rw [← hname, hf, h.known] at hg
          exact Option.some.inj hg
        -- the field is met again, which is a fault whatever it holds
        simp only [h.isSet, if_true]
        exact hnone
      · simp only [(h.others g hmem hf).isSet, (h.others g hmem hf).read]
        by_cases hset : g.isSet s
        · simp only [if_pos hset]
          exact hnone
        · simp only [if_neg hset]
          cases g.read depth r.2 s with
          | error => exact hnone
          | ok t => exact ih t

theorem fillFields_set (h : shape.Stores f inner set has) (depth : Nat)
    {later : List (FieldReader σ)} (hlater : ∀ g ∈ later, g ∈ shape.fields ∧ g.name ≠ f.name)
    (ds : List Doc) (b c : β) (s : σ) :
    fillFields depth later (set b s) ds = (fillFields depth later (set c s) ds).map (set b) := by
  induction ds generalizing later s with
  | nil => simp [fillFields, h.again]
  | cons d ds ih =>
    cases later with
    | nil => rfl
    | cons g later =>
      obtain ⟨hmem, hname⟩ := hlater g List.mem_cons_self
      simp only [fillFields, (h.others g hmem hname).read]
      cases g.read depth d s with
      | error => rfl
      | ok t => exact ih (fun g hg => hlater g (List.mem_cons_of_mem _ hg)) t

theorem fillFields_append (depth : Nat) {early : List (FieldReader σ)} {front : List Doc}
    (hlength : early.length = front.length) (f : FieldReader σ) (later : List (FieldReader σ))
    (x : Doc) (back : List Doc) (s : σ) :
    fillFields depth (early ++ f :: later) s (front ++ x :: back) =
      (fillFields depth early s front).bind fun s => (f.read depth x s).toOption.bind fun s =>
        fillFields depth later s back := by
  induction front generalizing early s with
  | nil =>
    rw [List.length_eq_zero_iff.mp hlength]
    rfl
  | cons d front ih =>
    cases early with
    | nil => cases hlength
    | cons g early =>
      simp only [List.cons_append, fillFields, Option.bind_assoc, ih (Nat.succ.inj hlength)]

theorem continues (h : shape.Stores f inner set has) (rest : σ → Option σ)
    (hrest : ∀ b c s, rest (set b s) = (rest (set c s)).map (set b)) (s : σ) :
    Continues has fun b => (rest (set b s)).bind fun t => (shape.finish t).toOption where
  alike b c := by
    rw [hrest b c s]
    cases hc : rest (set c s) with
    | none => rfl
    | some t =>
      have hkept : t = set c t := by simpa [hc] using hrest c c s
      rw [hkept]
      simpa [h.again] using h.finish b c t
  has b a hread := by
    obtain ⟨t, ht, hfinish⟩ := Option.bind_eq_some_iff.mp hread
    have hkept : t = set b t := by simpa [ht] using hrest b b s
    rw [hkept] at hfinish
    exact h.has b t a (toOption_eq_some_iff.mp hfinish)

theorem foldl_collect_cons (h : shape.Stores f inner set has) (depth : Nat) (s? : Option σ)
    (d : Doc) (rows : List (String × Doc)) :
    ((f.name, d) :: rows).foldl (collect shape.fields depth) s? =
      (inner depth d).toOption.bind fun b => s?.bind fun s =>
        if f.isSet s then none else rows.foldl (collect shape.fields depth) (some (set b s)) := by
  have hnone : rows.foldl (collect shape.fields depth) none = none := foldl_collect_none rows
  rw [List.foldl_cons]
  cases s? with
  | none => simp [collect, hnone]
  | some s =>
    simp only [collect, Option.bind_some, h.known, h.read]
    by_cases hset : f.isSet s
    · simp [hset, hnone]
    · cases inner depth d <;> simp [hset, hnone, Except.map, Except.toOption]

theorem readsAt_member (h : shape.Stores f inner set has) (before after : List (String × Written))
    (depth : Nat) :
    ReadsAt (shape.read (depth + 1)) (fun v => .object (before ++ (f.name, v) :: after))
      (inner depth) has := by
  intro v w d e hd he
  obtain ⟨members, start, front, x, back, rfl, hlists, hfront, hx, hback⟩ := holds_member hd
  obtain ⟨members', start', front', y, back', rfl, hlists', hfront', hy, hback'⟩ := holds_member he
  have hsees := fun g hg => h.sees g hg depth
  let later (s : σ) : Option σ := back.foldl (collect shape.fields depth) (some s)
  let next (s : σ) (b : β) : Option α :=
    (if f.isSet s then none else later (set b s)).bind fun t => (shape.finish t).toOption
  refine ⟨x, y, fun b => (front.foldl (collect shape.fields depth) (some shape.empty)).bind
    fun s => next s b, hx, hy, continues_bind (fun s => ?_) _, ?_, ?_⟩
  · by_cases hset : f.isSet s
    · simp only [next, if_pos hset]
      exact ⟨fun _ _ => rfl, fun _ _ hg => by cases hg⟩
    · simp only [next, if_neg hset]
      exact h.continues later (h.foldl_collect_set depth back) s
  · rw [toOption_read_object hlists, List.foldl_append, h.foldl_collect_cons]
    simp only [Option.bind_assoc, next, later]
  · rw [toOption_read_object hlists', List.foldl_append, h.foldl_collect_cons,
      ← foldl_collect_same hsees (forall₂_rowSame hfront hfront')]
    simp only [← foldl_collect_same hsees (forall₂_rowSame hback hback'), Option.bind_assoc, next,
      later]

/-- The fields before an item's and those behind it. -/
theorem fields_split (h : shape.Stores f inner set has) {n : Nat}
    (position : shape.fields[n]? = some f) :
    ∃ early later, shape.fields = early ++ f :: later ∧ early.length = n ∧
      ∀ g ∈ later, g ∈ shape.fields ∧ g.name ≠ f.name := by
  obtain ⟨hlt, hf⟩ := List.getElem?_eq_some_iff.mp position
  have hsplit : shape.fields = shape.fields.take n ++ f :: shape.fields.drop (n + 1) := by
    rw [← hf, List.getElem_cons_drop, List.take_append_drop]
  refine ⟨_, _, hsplit, List.length_take_of_le (Nat.le_of_lt hlt), fun g hg => ?_⟩
  have hnames := h.names
  rw [hsplit, List.map_append, List.map_cons] at hnames
  have hnot := (List.nodup_cons.mp hnames.of_append_right).1
  exact ⟨List.mem_of_mem_drop hg, fun heq => hnot (heq ▸ List.mem_map_of_mem hg)⟩

theorem readsAt_item (h : shape.Stores f inner set has) {before : List Written}
    (position : shape.fields[before.length]? = some f) (after : List Written) (depth : Nat) :
    ReadsAt (shape.read (depth + 1)) (fun v => .array (before ++ v :: after)) (inner depth)
      has := by
  obtain ⟨early, later, hfields, hlength, hothers⟩ := h.fields_split position
  have hearly : ∀ g ∈ early, ∀ s, SeesValue fun d => g.read depth d s := fun g hg =>
    h.sees g (hfields ▸ List.mem_append_left _ hg) depth
  have hlater : ∀ g ∈ later, ∀ s, SeesValue fun d => g.read depth d s := fun g hg =>
    h.sees g (hothers g hg).1 depth
  intro v w d e hd he
  obtain ⟨items, start, front, x, back, rfl, hlists, hfront, hx, hback⟩ := holds_item hd
  obtain ⟨items', start', front', y, back', rfl, hlists', hfront', hy, hback'⟩ := holds_item he
  have hfill := fillFields_append depth (hlength.trans hfront.length_eq.symm) f later x back
  have hfill' := fillFields_append depth (hlength.trans hfront'.length_eq.symm) f later y back'
  let next (s : σ) (b : β) : Option α :=
    (fillFields depth later (set b s) back).bind fun t => (shape.finish t).toOption
  refine ⟨x, y, fun b => (fillFields depth early shape.empty front).bind fun s => next s b, hx, hy,
    continues_bind (fun s => ?_) _, ?_, ?_⟩
  · exact h.continues (fun t => fillFields depth later t back)
      (h.fillFields_set depth hothers back) s
  · rw [toOption_read_array hlists, hfields, hfill]
    simp only [h.read, next]
    cases fillFields depth early shape.empty front <;> cases inner depth x <;> rfl
  · rw [toOption_read_array hlists', hfields, hfill',
      ← fillFields_same hearly (forall₂_same hfront hfront')]
    simp only [h.read, next, ← fillFields_same hlater (forall₂_same hback hback')]
    cases fillFields depth early shape.empty front <;> cases inner depth y <;> rfl

/-- A field of a record is read at its place, in an object as in an array. -/
theorem readsAt (h : shape.Stores f inner set has) {fill : Written → Written}
    (place : shape.Places f fill) (depth : Nat) :
    ReadsAt (shape.read (depth + 1)) fill (inner depth) has := by
  cases place with
  | member before after => exact h.readsAt_member before after depth
  | item before after position => exact h.readsAt_item position after depth

end RecordShape.Stores

end Devnet.Json
