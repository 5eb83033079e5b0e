import Devnet.Proofs.Json.OrderFree

namespace Devnet.Json

/-- The trees hold the same value. -/
def Doc.Same (d e : Doc) : Prop := ∃ w : Written, d.Holds w ∧ e.Holds w

def RowSame (r t : String × Doc) : Prop := r.1 = t.1 ∧ r.2.Same t.2

/-- Two trees that hold the same value, at their top. -/
inductive Doc.SameTop : Doc → Doc → Prop where
  | null (i j i' j' : Nat) : SameTop (.null i j) (.null i' j')
  | bool (b : Bool) (i j i' j' : Nat) : SameTop (.bool b i j) (.bool b i' j')
  | number {l l' : NumberLiteral} (same : l.value.toOption = l'.value.toOption)
      (i j i' j' : Nat) : SameTop (.number l i j) (.number l' i' j')
  | string {l l' : StringLiteral} {s : String} (text : l.text = .ok s) (text' : l'.text = .ok s)
      (i j i' j' : Nat) : SameTop (.string l i j) (.string l' i' j')
  | array {items items' : Items} {ds es : List Doc} (lists : items.Lists ds)
      (lists' : items'.Lists es) (same : List.Forall₂ Doc.Same ds es) (i i' : Nat) :
      SameTop (.array items i) (.array items' i')
  | object {members members' : Members} {rows others : List (String × Doc)}
      (lists : members.Lists rows) (lists' : members'.Lists others)
      (same : List.Forall₂ RowSame rows others) (i i' : Nat) :
      SameTop (.object members i) (.object members' i')

theorem forall₂_same {ds es : List Doc} {vs : List Written} (hd : List.Forall₂ Doc.Holds ds vs)
    (he : List.Forall₂ Doc.Holds es vs) : List.Forall₂ Doc.Same ds es :=
  forall₂_join hd (S := flip Doc.Holds) he.flip fun _ v _ _ hd he => ⟨v, hd, he⟩

theorem forall₂_rowSame {rows others : List (String × Doc)} {ms : List (String × Written)}
    (hr : List.Forall₂ RowHolds rows ms) (ho : List.Forall₂ RowHolds others ms) :
    List.Forall₂ RowSame rows others :=
  forall₂_join hr (S := flip RowHolds) ho.flip fun _ m _ _ hr ho =>
    ⟨hr.1.trans ho.1.symm, m.2, hr.2, ho.2⟩

theorem Doc.Same.top {d e : Doc} (h : d.Same e) : d.SameTop e := by
  obtain ⟨w, hd, he⟩ := h
  cases w with
  | null =>
    match d, hd, e, he with
    | .null .., _, .null .., _ => exact .null ..
  | bool b =>
    match d, hd, e, he with
    | .bool _ i j, rfl, .bool _ i' j', rfl => exact .bool _ i j i' j'
  | number n =>
    match d, hd, e, he with
    | .number .., hd, .number .., he => exact .number (hd.trans he.symm) ..
  | string s =>
    match d, hd, e, he with
    | .string .., hd, .string .., he => exact .string hd he ..
  | array vs =>
    match d, hd, e, he with
    | .array .., hd, .array .., he =>
      obtain ⟨ds, hlists, hds⟩ := Items.Holds.lists hd
      obtain ⟨es, hlists', hes⟩ := Items.Holds.lists he
      exact .array hlists hlists' (forall₂_same hds hes) ..
  | object ms =>
    match d, hd, e, he with
    | .object .., hd, .object .., he =>
      obtain ⟨rows, hlists, hrows⟩ := Members.Holds.lists hd
      obtain ⟨others, hlists', hothers⟩ := Members.Holds.lists he
      exact .object hlists hlists' (forall₂_rowSame hrows hothers) ..

/-- Trees that hold the same are read alike, or both are refused. -/
def SeesValue {α : Type} (reader : Doc → Except Complaint α) : Prop :=
  ∀ d e : Doc, d.Same e → (reader d).toOption = (reader e).toOption

theorem SeesValue.map {α β : Type} {reader : Doc → Except Complaint α} (h : SeesValue reader)
    (f : α → β) : SeesValue fun d => (reader d).map f := by
  intro d e hde
  rw [toOption_map, toOption_map, h d e hde]

theorem Doc.skip_seesValue : SeesValue Doc.skip := by
  rintro d e ⟨w, hd, he⟩
  rw [Doc.skip_of_holds hd, Doc.skip_of_holds he]

theorem Doc.readNatural_seesValue : SeesValue Doc.readNatural := by
  intro d e h
  cases h.top with
  | number same => rw [toOption_readNatural, toOption_readNatural, same]
  | _ => rfl

theorem Doc.readString_seesValue (expected : String) : SeesValue (Doc.readString expected) := by
  intro d e h
  cases h.top with
  | string text text' => rw [readString, readString, text, text']
  | _ => rfl

theorem Doc.readVariant_seesValue {α : Type} (variants : List (String × α)) :
    SeesValue (Doc.readVariant variants) := by
  intro d e h
  cases h.top with
  | @string l l' s text text' =>
    simp only [readVariant, text, text', bind, Except.bind]
    cases variants.lookup s <;> rfl
  | _ => rfl

theorem Items.read_same {depth : Nat} (hread : SeesValue (Doc.read depth)) {items items' : Items}
    {ds es : List Doc} (lists : items.Lists ds) (lists' : items'.Lists es)
    (same : List.Forall₂ Doc.Same ds es) :
    (items.read depth).toOption = (items'.read depth).toOption := by
  induction same generalizing items items' with
  | nil =>
    cases lists
    cases lists'
    rfl
  | cons hde _ ih =>
    cases lists with
    | item lead d lists =>
      cases lists' with
      | item lead' e lists' =>
        simp only [Items.read, toOption_bind, hread _ _ hde, ih lists lists']

theorem Members.read_same {depth : Nat} (hread : SeesValue (Doc.read depth))
    {members members' : Members} {rows others : List (String × Doc)} (lists : members.Lists rows)
    (lists' : members'.Lists others) (same : List.Forall₂ RowSame rows others) :
    (members.read depth).toOption = (members'.read depth).toOption := by
  induction same generalizing members members' with
  | nil =>
    cases lists
    cases lists'
    rfl
  | cons hrow _ ih =>
    obtain ⟨hname, hdoc⟩ := hrow
    cases lists with
    | member lead after d named lists =>
      cases lists' with
      | member lead' after' e named' lists' =>
        obtain rfl := hname
        simp only [Members.read, named, named', toOption_bind, hread _ _ hdoc, ih lists lists']

/-- By induction on the depth: the parts of a container are read with one less. -/
theorem Doc.read_seesValue (depth : Nat) : SeesValue (Doc.read depth) := by
  induction depth with
  | zero =>
    intro d e h
    cases h.top with
    | number same => simp only [Doc.read, toOption_map, toOption_read, same]
    | string text text' => simp only [Doc.read, text, text']
    | _ => rfl
  | succ depth ih =>
    intro d e h
    cases h.top with
    | number same => simp only [Doc.read, toOption_map, toOption_read, same]
    | string text text' => simp only [Doc.read, text, text']
    | array lists lists' same =>
      simp only [Doc.read, toOption_map, Items.read_same ih lists lists' same]
    | object lists lists' same =>
      simp only [Doc.read, toOption_map, Members.read_same ih lists lists' same]
    | _ => rfl

section Records

variable {σ α : Type} {fields : List (FieldReader σ)} {depth : Nat}

theorem foldl_collect_same (hreads : ∀ f ∈ fields, ∀ s, SeesValue fun d => f.read depth d s)
    {rows others : List (String × Doc)} (same : List.Forall₂ RowSame rows others) (s? : Option σ) :
    rows.foldl (collect fields depth) s? = others.foldl (collect fields depth) s? := by
  induction same generalizing s? with
  | nil => rfl
  | @cons r t rows others hrow _ ih =>
    obtain ⟨hname, hdoc⟩ := hrow
    have hstep : collect fields depth s? r = collect fields depth s? t := by
      cases s? with
      | none => rfl
      | some s =>
        simp only [collect, Option.bind_some, hname, Doc.skip_seesValue _ _ hdoc]
        cases hf : fieldOf? fields t.1 with
        | none => rfl
        | some f => simp only [hreads f (fieldOf_name hf).1 s _ _ hdoc]
    rw [List.foldl_cons, List.foldl_cons, hstep, ih]

/-- What items come to when each is read for the next field. -/
def fillFields (depth : Nat) : List (FieldReader σ) → σ → List Doc → Option σ
  | _, s, [] => some s
  | [], _, _ :: _ => none
  | f :: fields, s, d :: ds =>
    (f.read depth d s).toOption.bind fun s => fillFields depth fields s ds

theorem Items.Lists.readFields {items : Items} {ds : List Doc} (h : items.Lists ds) (s : σ) :
    (items.readFields depth fields s).toOption.map (·.1) = fillFields depth fields s ds := by
  induction h generalizing fields s with
  | close stop => cases fields <;> rfl
  | item lead d _ ih =>
    cases fields with
    | nil => rfl
    | cons f fields =>
      simp only [Items.readFields, fillFields, toOption_bind, toOption_mapError, Option.map_bind]
      congr 1
      funext t
      simpa only [toOption_pure, Option.map_eq_bind, Option.bind_assoc, Option.bind_some,
        Function.comp_def] using ih t

theorem fillFields_same (hreads : ∀ f ∈ fields, ∀ s, SeesValue fun d => f.read depth d s)
    {ds es : List Doc} (same : List.Forall₂ Doc.Same ds es) (s : σ) :
    fillFields depth fields s ds = fillFields depth fields s es := by
  induction same generalizing fields s with
  | nil => rfl
  | cons hde _ ih =>
    cases fields with
    | nil => rfl
    | cons f fields =>
      have hrest := fun t => ih (fun g hg => hreads g (List.mem_cons_of_mem f hg)) t
      simp only [fillFields, hreads f List.mem_cons_self s _ _ hde, hrest]

theorem RecordShape.toOption_read_object {shape : RecordShape σ α} {members : Members}
    {rows : List (String × Doc)} (lists : members.Lists rows) (start : Nat) :
    (shape.read (depth + 1) (.object members start)).toOption =
      (rows.foldl (collect shape.fields depth) (some shape.empty)).bind fun s =>
        (shape.finish s).toOption := by
  rw [← lists.readFields shape.empty]
  simp only [read, Doc.enter, toOption_bind, toOption_mapError, Option.bind_map, Function.comp_def]

theorem RecordShape.toOption_read_array {shape : RecordShape σ α} {items : Items}
    {ds : List Doc} (lists : items.Lists ds) (start : Nat) :
    (shape.read (depth + 1) (.array items start)).toOption =
      (fillFields depth shape.fields shape.empty ds).bind fun s => (shape.finish s).toOption := by
  rw [← lists.readFields shape.empty]
  simp only [read, Doc.enter, toOption_bind, toOption_mapError, Option.bind_map, Function.comp_def]

theorem RecordShape.read_seesValue {shape : RecordShape σ α}
    (hreads : ∀ f ∈ shape.fields, ∀ depth s, SeesValue fun d => f.read depth d s) (depth : Nat) :
    SeesValue (shape.read depth) := by
  intro d e h
  cases h.top with
  | array lists lists' same =>
    cases depth with
    | zero => rfl
    | succ depth =>
      rw [toOption_read_array lists, toOption_read_array lists',
        fillFields_same (fun f hf => hreads f hf depth) same]
  | object lists lists' same =>
    cases depth with
    | zero => rfl
    | succ depth =>
      rw [toOption_read_object lists, toOption_read_object lists',
        foldl_collect_same (fun f hf => hreads f hf depth) same]
  | _ => rfl

end Records

section Tables

variable {α τ : Type} {reader : (depth : Nat) → Doc → Except Complaint α}
  {insert : String → α → τ → τ} {depth : Nat}

theorem foldl_enterRow_same (hreader : SeesValue (reader depth)) {rows others : List (String × Doc)}
    (same : List.Forall₂ RowSame rows others) (t? : Option τ) :
    rows.foldl (enterRow reader insert depth) t? =
      others.foldl (enterRow reader insert depth) t? := by
  induction same generalizing t? with
  | nil => rfl
  | cons hrow _ ih =>
    obtain ⟨hname, hdoc⟩ := hrow
    simp only [List.foldl_cons, enterRow, hname, hreader _ _ hdoc]
    exact ih _

/-- Whether all rows can be read does not depend on what is in the table already. -/
theorem foldl_enterRow_isSome (rows : List (String × Doc)) (t u : τ) :
    (rows.foldl (enterRow reader insert depth) (some t)).isSome =
      (rows.foldl (enterRow reader insert depth) (some u)).isSome := by
  induction rows generalizing t u with
  | nil => rfl
  | cons r rows ih =>
    simp only [List.foldl_cons, enterRow, Option.bind_some]
    cases reader depth r.2 with
    | error => rfl
    | ok v => exact ih (insert r.1 v t) (insert r.1 v u)

theorem foldl_enterRow_cons (t? : Option τ) (name : String) (d : Doc)
    (rows : List (String × Doc)) :
    ((name, d) :: rows).foldl (enterRow reader insert depth) t? =
      (reader depth d).toOption.bind fun v => t?.bind fun t =>
        rows.foldl (enterRow reader insert depth) (some (insert name v t)) := by
  rw [List.foldl_cons, enterRow]
  cases t? with
  | none => cases reader depth d <;> simp [Except.toOption, foldl_enterRow_none]
  | some t => cases reader depth d <;> simp [Except.toOption, foldl_enterRow_none]

end Tables

theorem toOption_readText {α : Type} {reader : (depth : Nat) → Doc → Except Complaint α}
    {raw : String} {d : Doc} (h : Source.ofText raw = ⟨d, none⟩) :
    (readText reader raw).toOption = (reader depthLimit d).toOption := by
  simp only [readText, h, Source.read, toOption_mapError]
  cases reader depthLimit d <;> rfl

end Devnet.Json
