import Devnet.Json.Fields
import Devnet.Proofs.Json.Printing

namespace Devnet.Json

namespace Doc

variable {d : Doc}

theorem shows_string_iff {s : String} :
    d.Shows (.string s) ↔ ∃ l start stop, d = .string l start stop ∧ l.text = .ok s := by
  constructor
  · intro h
    match d, h with
    | .string l start stop, h => exact ⟨l, start, stop, rfl, h⟩
  · rintro ⟨l, start, stop, rfl, h⟩
    exact h

theorem shows_array_iff {vs : List Json} :
    d.Shows (.array vs) ↔ ∃ items start, d = .array items start ∧ items.Shows vs := by
  constructor
  · intro h
    match d, h with
    | .array items start, h => exact ⟨items, start, rfl, h⟩
  · rintro ⟨items, start, rfl, h⟩
    exact h

theorem shows_object_iff {ms : List (String × Json)} :
    d.Shows (.object ms) ↔ ∃ members start, d = .object members start ∧ members.Shows ms := by
  constructor
  · intro h
    match d, h with
    | .object members start, h => exact ⟨members, start, rfl, h⟩
  · rintro ⟨members, start, rfl, h⟩
    exact h

theorem readNatural_of_shows {n : UInt64} (h : d.Shows (natural n)) : d.readNatural = .ok n := by
  match d, h with
  | .number l start stop, h =>
    have hvalue : l.value = .ok (.natural n) := toOption_eq_some_iff.mp h
    simp only [readNatural, NumberLiteral.read, hvalue]
    rfl

theorem readString_of_shows {s : String} (h : d.Shows (.string s)) (expected : String) :
    d.readString expected = .ok s := by
  obtain ⟨l, start, stop, rfl, htext⟩ := shows_string_iff.mp h
  exact htext

theorem readVariant_of_shows {α : Type} {variants : List (String × α)} {s : String} {a : α}
    (h : d.Shows (.string s)) (hlookup : variants.lookup s = some a) :
    d.readVariant variants = .ok a := by
  obtain ⟨l, start, stop, rfl, htext⟩ := shows_string_iff.mp h
  simp only [readVariant, htext, bind, Except.bind, hlookup]
  rfl

end Doc

theorem Items.shows_nil {items : Items} (h : items.Shows []) : ∃ stop, items = .close stop := by
  match items, h with
  | .close stop, _ => exact ⟨stop, rfl⟩

theorem Items.shows_cons {items : Items} {v : Json} {vs : List Json} (h : items.Shows (v :: vs)) :
    ∃ lead d rest, items = .item lead d rest ∧ d.Shows v ∧ rest.Shows vs := by
  match items, h with
  | .item lead d rest, h => exact ⟨lead, d, rest, rfl, h⟩

theorem Members.shows_nil {members : Members} (h : members.Shows []) :
    ∃ stop, members = .close stop := by
  match members, h with
  | .close stop, _ => exact ⟨stop, rfl⟩

theorem Members.shows_cons {members : Members} {name : String} {v : Json}
    {ms : List (String × Json)} (h : members.Shows ((name, v) :: ms)) :
    ∃ lead key after d rest, members = .member lead key after d rest ∧ key.text = .ok name ∧
      d.Shows v ∧ rest.Shows ms := by
  match members, h with
  | .member lead key after d rest, h => exact ⟨lead, key, after, d, rest, rfl, h⟩

theorem Items.read_of_shows_strings (depth : Nat) {texts : List String} {items : Items}
    (h : items.Shows (texts.map .string)) : items.read depth = .ok (texts.map .string) := by
  induction texts generalizing items with
  | nil =>
    obtain ⟨stop, rfl⟩ := Items.shows_nil h
    rfl
  | cons s texts ih =>
    obtain ⟨lead, d, rest, rfl, hd, hrest⟩ := Items.shows_cons h
    obtain ⟨l, start, stop, rfl, htext⟩ := Doc.shows_string_iff.mp hd
    rw [Items.read, ih hrest, Doc.read, htext]
    rfl

/-- The fields collect the members, one after the other, from one state to another. -/
inductive Collects {σ : Type} (fields : List (FieldReader σ)) (depth : Nat) :
    σ → List (String × Json) → σ → Prop where
  | done (s : σ) : Collects fields depth s [] s
  | field {f : FieldReader σ} {name : String} {v : Json} {ms : List (String × Json)} {s s' t : σ}
      (known : fieldOf? fields name = some f) (unset : f.isSet s = false)
      (read : ∀ d : Doc, d.Shows v → f.read depth d s = .ok s')
      (rest : Collects fields depth s' ms t) : Collects fields depth s ((name, v) :: ms) t

theorem Collects.readFields {σ : Type} {fields : List (FieldReader σ)} {depth : Nat} {s t : σ}
    {ms : List (String × Json)} (h : Collects fields depth s ms t) {members : Members}
    (hshows : members.Shows ms) :
    ∃ stop, members.readFields fields depth s = .ok (t, stop) := by
  induction h generalizing members with
  | done s =>
    obtain ⟨stop, rfl⟩ := Members.shows_nil hshows
    exact ⟨stop, rfl⟩
  | field known unset read _ ih =>
    obtain ⟨lead, key, after, d, rest, rfl, hkey, hd, hrest⟩ := Members.shows_cons hshows
    obtain ⟨stop, hfields⟩ := ih hrest
    refine ⟨stop, ?_⟩
    simp only [Members.readFields, hkey, bind, Except.bind, known, unset, read d hd,
      Except.mapError, Bool.false_eq_true, if_false]
    exact hfields

/-- A record is read from an object whose members its fields collect. -/
theorem Collects.readRecord {σ α : Type} {shape : RecordShape σ α} {depth : Nat} {t : σ} {a : α}
    {ms : List (String × Json)} (h : Collects shape.fields depth shape.empty ms t)
    (hfinish : shape.finish t = .ok a) {d : Doc} (hshows : d.Shows (.object ms)) :
    shape.read (depth + 1) d = .ok a := by
  obtain ⟨members, start, rfl, hmembers⟩ := Doc.shows_object_iff.mp hshows
  obtain ⟨stop, hfields⟩ := h.readFields hmembers
  simp only [RecordShape.read, Doc.enter, hfields, bind, Except.bind, hfinish]
  rfl

theorem Members.readTable_of_shows {α τ : Type}
    (reader : (depth : Nat) → Doc → Except Complaint α) (insert : String → α → τ → τ)
    (depth : Nat) {rows : List (String × α)} {toJson : α → Json}
    (hread : ∀ r ∈ rows, ∀ d : Doc, d.Shows (toJson r.2) → reader depth d = .ok r.2)
    {members : Members} (h : members.Shows (rows.map fun r => (r.1, toJson r.2))) (t : τ) :
    members.readTable reader insert depth t =
      .ok (rows.foldl (fun t r => insert r.1 r.2 t) t) := by
  induction rows generalizing members t with
  | nil =>
    obtain ⟨stop, rfl⟩ := Members.shows_nil h
    rfl
  | cons r rows ih =>
    obtain ⟨lead, key, after, d, rest, rfl, hkey, hd, hrest⟩ := Members.shows_cons h
    have hr := hread r List.mem_cons_self d hd
    have hrows := ih (fun s hs => hread s (List.mem_cons_of_mem _ hs)) hrest (insert r.1 r.2 t)
    simp only [Members.readTable, hkey, bind, Except.bind, hr, Except.mapError]
    exact hrows

/-- What is printed is read back, whatever is read, if every tree that shows it is read alike. -/
theorem readText_of_prints {α : Type} {reader : (depth : Nat) → Doc → Except Complaint α}
    {v : Json} {a : α} (hprints : Prints v)
    (hread : ∀ d : Doc, d.Shows v → reader depthLimit d = .ok a) :
    readText reader v.text = .ok a := by
  obtain ⟨d, hsource, hshows⟩ := hprints.source blank_nil blank_nil
  rw [List.nil_append, List.append_nil] at hsource
  have hchars : (text v).toList = v.chars := String.toList_ofList
  rw [readText, Source.ofText, hchars, hsource, Source.read]
  simp only [hread d hshows]
  rfl

end Devnet.Json
