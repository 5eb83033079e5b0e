import Devnet.Proofs.Json.NumberSpelling
import Devnet.Proofs.Json.StringSpelling
import Devnet.Proofs.Json.Written
import Mathlib.Data.Nat.Basic

namespace Devnet.Json

/-- Characters that may stand between tokens. -/
def Blank (b : List Char) : Prop := ∀ c ∈ b, isSpace c = true

/-- What stands before an item or a member: blanks, with a comma unless it is the first. -/
inductive Separates : (first : Bool) → List Char → Prop where
  | first {b : List Char} (blank : Blank b) : Separates true b
  | next {b c : List Char} (before : Blank b) (after : Blank c) : Separates false (b ++ ',' :: c)

/-- What may be spelled: a value, or what is left of an array or an object. -/
inductive Part where
  | value (v : Written)
  | items (first : Bool) (vs : List Written)
  | members (first : Bool) (ms : List (String × Written))

/-- The characters spell the part; an array or an object up to and with its closing bracket. -/
inductive Spells : List Char → Part → Prop where
  | null : Spells ['n', 'u', 'l', 'l'] (.value .null)
  | yes : Spells ['t', 'r', 'u', 'e'] (.value (.bool true))
  | no : Spells ['f', 'a', 'l', 's', 'e'] (.value (.bool false))
  | number {cs : List Char} {l : NumberLiteral} {n : Option Number}
      (unsigned : SpellsUnsigned cs l) (sign : l.negative = false)
      (meaning : l.value.toOption = n) : Spells cs (.value (.number n))
  | minus {cs : List Char} {l : NumberLiteral} {n : Option Number} (unsigned : SpellsUnsigned cs l)
      (sign : l.negative = true) (meaning : l.value.toOption = n) :
      Spells ('-' :: cs) (.value (.number n))
  | string {cs : List Char} {s : String} (spelled : SpellsString cs s) :
      Spells cs (.value (.string s))
  | array {cs : List Char} {vs : List Written} (items : Spells cs (.items true vs)) :
      Spells ('[' :: cs) (.value (.array vs))
  | object {cs : List Char} {ms : List (String × Written)}
      (members : Spells cs (.members true ms)) :
      Spells ('\x7b' :: cs) (.value (.object ms))
  | noItems {first : Bool} {b : List Char} (blank : Blank b) :
      Spells (b ++ [']']) (.items first [])
  | item {first : Bool} {sep cs ds : List Char} {v : Written} {vs : List Written}
      (separates : Separates first sep) (value : Spells cs (.value v))
      (rest : Spells ds (.items false vs)) : Spells (sep ++ (cs ++ ds)) (.items first (v :: vs))
  | noMembers {first : Bool} {b : List Char} (blank : Blank b) :
      Spells (b ++ ['\x7d']) (.members first [])
  | member {first : Bool} {sep ks b c cs ds : List Char} {name : String} {v : Written}
      {ms : List (String × Written)} (separates : Separates first sep) (key : SpellsString ks name)
      (before : Blank b) (after : Blank c) (value : Spells cs (.value v))
      (rest : Spells ds (.members false ms)) :
      Spells (sep ++ (ks ++ (b ++ ':' :: (c ++ (cs ++ ds))))) (.members first ((name, v) :: ms))

theorem skipSpace_solid {c : Char} (hc : isSpace c = false) (r : List Char) (i : Nat) :
    Cursor.skipSpace ⟨i, c :: r⟩ = ⟨i, c :: r⟩ := by
  simp [Cursor.skipSpace, hc]

theorem skipSpace_append {b : List Char} (h : Blank b) (cs : List Char) (i : Nat) :
    Cursor.skipSpace ⟨i, b ++ cs⟩ = Cursor.skipSpace ⟨i + b.length, cs⟩ := by
  induction b generalizing i with
  | nil => rfl
  | cons x b ih =>
    have hx := h x List.mem_cons_self
    have hb : Blank b := fun y hy => h y (List.mem_cons_of_mem _ hy)
    rw [List.cons_append, Cursor.skipSpace, if_pos hx, ih hb, List.length_cons]
    congr 2
    omega

theorem skipSpace_blank {b : List Char} (h : Blank b) {c : Char} (hc : isSpace c = false)
    (r : List Char) (i : Nat) :
    Cursor.skipSpace ⟨i, b ++ c :: r⟩ = ⟨i + b.length, c :: r⟩ := by
  rw [skipSpace_append h, skipSpace_solid hc]

/-- What a value begins with: no blank and no sign that separates or closes. -/
def StartsValue (c : Char) : Prop :=
  (digit? c).isSome ∨ c ∈ ['"', '[', '\x7b', 'n', 't', 'f', '-']

theorem StartsValue.solid {c : Char} (h : StartsValue c) :
    isSpace c = false ∧ c ≠ ']' ∧ c ≠ '\x7d' := by
  rcases h with h | h
  · refine ⟨?_, ?_, ?_⟩
    · rw [Bool.eq_false_iff]
      intro hspace
      simp only [isSpace, Bool.or_eq_true, decide_eq_true_eq] at hspace
      rcases hspace with ((rfl | rfl) | rfl) | rfl <;> cases h
    · rintro rfl
      cases h
    · rintro rfl
      cases h
  · simp only [List.mem_cons, List.not_mem_nil, or_false] at h
    rcases h with rfl | rfl | rfl | rfl | rfl | rfl | rfl <;> decide

theorem SpellsUnsigned.head {cs : List Char} {l : NumberLiteral} (h : SpellsUnsigned cs l) :
    ∃ c r, cs = c :: r ∧ (digit? c).isSome := by
  cases h with
  | @parts _ _ _ _ whole _ _ hw =>
    obtain ⟨⟨rfl, hne, hsmall⟩, -⟩ := hw
    cases whole with
    | nil => exact absurd rfl hne
    | cons d ds =>
      refine ⟨_, _, rfl, ?_⟩
      rw [digit_digitChar (hsmall d List.mem_cons_self)]
      rfl

theorem Spells.head {cs : List Char} {v : Written} (h : Spells cs (.value v)) :
    ∃ c r, cs = c :: r ∧ StartsValue c := by
  cases h with
  | null => exact ⟨_, _, rfl, .inr (by decide)⟩
  | yes => exact ⟨_, _, rfl, .inr (by decide)⟩
  | no => exact ⟨_, _, rfl, .inr (by decide)⟩
  | number unsigned =>
    obtain ⟨c, r, rfl, hc⟩ := unsigned.head
    exact ⟨c, r, rfl, .inl hc⟩
  | minus => exact ⟨_, _, rfl, .inr (by decide)⟩
  | string spelled =>
    obtain ⟨body, ps, rfl, -, -⟩ := spelled
    exact ⟨_, _, rfl, .inr (by decide)⟩
  | array => exact ⟨_, _, rfl, .inr (by decide)⟩
  | object => exact ⟨_, _, rfl, .inr (by decide)⟩

theorem Blank.endsNumber {b : List Char} (h : Blank b) : EndsNumber b := by
  cases b with
  | nil => trivial
  | cons c b =>
    have hc := h c List.mem_cons_self
    simp only [isSpace, Bool.or_eq_true, decide_eq_true_eq] at hc
    rcases hc with ((rfl | rfl) | rfl) | rfl <;>
      exact ⟨by decide, by decide, by decide, by decide⟩

/-- A blank, a comma or a closing bracket ends a number. -/
theorem endsNumber_blank {b : List Char} (h : Blank b) {c : Char}
    (hc : c = ',' ∨ c = ']' ∨ c = '\x7d') (r : List Char) : EndsNumber (b ++ c :: r) := by
  cases b with
  | nil => rcases hc with rfl | rfl | rfl <;> exact ⟨by decide, by decide, by decide, by decide⟩
  | cons x b =>
    have hx : Blank [x] := fun y hy => h y (by rw [List.mem_singleton.mp hy]; simp)
    exact hx.endsNumber

theorem Separates.endsNumber {sep : List Char} (h : Separates false sep) (r : List Char) :
    EndsNumber (sep ++ r) := by
  cases h with
  | next before =>
    rw [List.append_assoc]
    exact endsNumber_blank before (.inl rfl) _

theorem Spells.items_endsNumber {cs : List Char} {vs : List Written}
    (h : Spells cs (.items false vs)) (r : List Char) : EndsNumber (cs ++ r) := by
  cases h with
  | noItems blank =>
    rw [List.append_assoc]
    exact endsNumber_blank blank (.inr (.inl rfl)) r
  | item separates =>
    rw [List.append_assoc]
    exact separates.endsNumber _

theorem Spells.members_endsNumber {cs : List Char} {ms : List (String × Written)}
    (h : Spells cs (.members false ms)) (r : List Char) : EndsNumber (cs ++ r) := by
  cases h with
  | noMembers blank =>
    rw [List.append_assoc]
    exact endsNumber_blank blank (.inr (.inr rfl)) r
  | member separates =>
    rw [List.append_assoc]
    exact separates.endsNumber _

theorem scanDoc_append {b : List Char} (h : Blank b) (fuel i : Nat) (cs : List Char) :
    scanDoc (fuel + 1) ⟨i, b ++ cs⟩ = scanDoc (fuel + 1) ⟨i + b.length, cs⟩ := by
  rw [scanDoc, skipSpace_append h, scanDoc]

theorem scanItems_separates {first : Bool} {sep : List Char} (h : Separates first sep) {c : Char}
    (hc : isSpace c = false) (hclose : c ≠ ']') (fuel i : Nat) (r : List Char) :
    scanItems (fuel + 1) first ⟨i, sep ++ c :: r⟩ = scanItem fuel ⟨i + sep.length, c :: r⟩ := by
  cases h with
  | first blank =>
    rw [scanItems, skipSpace_blank blank hc]
    simp
  | @next b d before after =>
    have hlength : i + (b ++ ',' :: d).length = i + b.length + 1 + d.length := by
      rw [List.length_append, List.length_cons]
      omega
    rw [hlength, scanItems, List.append_assoc, List.cons_append,
      skipSpace_blank before (by decide)]
    simp [skipSpace_blank after hc, hclose]

/-- How far the text is read before a member depends on what stands before it only. -/
theorem scanMembers_separates {first : Bool} {sep : List Char} (h : Separates first sep) :
    ∃ lead, ∀ fuel i r, scanMembers (fuel + 1) first ⟨i, sep ++ '"' :: r⟩ =
      scanMember fuel (i + lead) ⟨i + sep.length, '"' :: r⟩ := by
  have hquote : isSpace '"' = false := by decide
  cases h with
  | first blank =>
    refine ⟨sep.length, fun fuel i r => ?_⟩
    rw [scanMembers, skipSpace_blank blank hquote]
    rfl
  | @next b d before after =>
    refine ⟨b.length, fun fuel i r => ?_⟩
    have hlength : i + (b ++ ',' :: d).length = i + b.length + 1 + d.length := by
      rw [List.length_append, List.length_cons]
      omega
    rw [hlength, scanMembers, List.append_assoc, List.cons_append,
      skipSpace_blank before (by decide)]
    simp [skipSpace_blank after hquote]

theorem scanItems_close (first : Bool) {b : List Char} (h : Blank b) (fuel i : Nat)
    (r : List Char) : scanItems (fuel + 1) first ⟨i, b ++ ']' :: r⟩ =
      (.close (i + b.length + 1), some ⟨i + b.length + 1, r⟩) := by
  rw [scanItems, skipSpace_blank h (by decide)]
  rfl

theorem scanMembers_close (first : Bool) {b : List Char} (h : Blank b) (fuel i : Nat)
    (r : List Char) : scanMembers (fuel + 1) first ⟨i, b ++ '\x7d' :: r⟩ =
      (.close (i + b.length + 1), some ⟨i + b.length + 1, r⟩) := by
  rw [scanMembers, skipSpace_blank h (by decide)]
  rfl

theorem scanDoc_number {c : Char} (hc : (digit? c).isSome) (fuel i : Nat) (r : List Char) :
    scanDoc (fuel + 1) ⟨i, c :: r⟩ = numberDoc false i ⟨i, c :: r⟩ := by
  have hsolid := (StartsValue.solid (.inl hc)).1
  have hne {x : Char} (hx : (digit? x).isSome = false) : c ≠ x := by
    rintro rfl
    rw [hx] at hc
    cases hc
  have hbrace : c ≠ '\x7b' := hne (by decide)
  have hbracket : c ≠ '[' := hne (by decide)
  have hquote : c ≠ '"' := hne (by decide)
  have hn : c ≠ 'n' := hne (by decide)
  have ht : c ≠ 't' := hne (by decide)
  have hf : c ≠ 'f' := hne (by decide)
  have hminus : c ≠ '-' := hne (by decide)
  simp [scanDoc, skipSpace_solid hsolid, hc]

/-- What taking apart a spelling of a part must come to. -/
def Scans (cs : List Char) : Part → Prop
  | .value v => ∀ fuel i r, 3 * cs.length ≤ fuel → EndsNumber r →
      ∃ d j, scanDoc fuel ⟨i, cs ++ r⟩ = (d, some ⟨j, r⟩) ∧ d.Holds v
  | .items first vs => ∀ fuel i r, 3 * cs.length ≤ fuel →
      ∃ items j, scanItems fuel first ⟨i, cs ++ r⟩ = (items, some ⟨j, r⟩) ∧ items.Holds vs
  | .members first ms => ∀ fuel i r, 3 * cs.length ≤ fuel →
      ∃ members j, scanMembers fuel first ⟨i, cs ++ r⟩ = (members, some ⟨j, r⟩) ∧
        members.Holds ms

theorem Spells.length_pos {cs : List Char} {p : Part} (h : Spells cs p) : 0 < cs.length := by
  cases h with
  | number unsigned =>
    obtain ⟨c, r, rfl, -⟩ := unsigned.head
    exact Nat.succ_pos _
  | string spelled =>
    obtain ⟨body, ps, rfl, -⟩ := spelled
    exact Nat.succ_pos _
  | item _ value =>
    obtain ⟨c, r, rfl, -⟩ := value.head
    simp only [List.length_append, List.length_cons]
    omega
  | member _ key =>
    obtain ⟨body, ps, rfl, -⟩ := key
    simp only [List.length_append, List.length_cons]
    omega
  | noItems | noMembers =>
    rw [List.length_append, List.length_singleton]
    omega
  | _ => exact Nat.succ_pos _

theorem exists_succ_of_fuel {n fuel : Nat} (h : 3 * (n + 1) ≤ fuel) :
    ∃ f, fuel = f + 1 ∧ 3 * n ≤ f :=
  ⟨fuel - 1, by omega, by omega⟩

/-- The text of a literal that is closed does not depend on where it stands. -/
theorem text_of_spelled {ps : List Piece} {s : String} {place : Nat}
    (h : ∀ place, StringLiteral.decode place ps .closed = .ok s.toList) :
    StringLiteral.text ⟨place, ps, .closed⟩ = .ok s := by
  rw [StringLiteral.text, h]
  exact congrArg Except.ok String.ofList_toList

theorem scanMember_of_scans {ks b c cs : List Char} {name : String} {v : Written}
    (key : SpellsString ks name) (before : Blank b) (after : Blank c)
    (value : Spells cs (.value v)) (hv : Scans cs (.value v)) {fuel : Nat}
    (hfuel : 3 * cs.length ≤ fuel) {r : List Char} (hr : EndsNumber r) (lead i : Nat) :
    ∃ l place d j, scanMember (fuel + 1) lead ⟨i, ks ++ (b ++ ':' :: (c ++ (cs ++ r)))⟩ =
        (.member lead l place d (scanMembers fuel false ⟨j, r⟩).1,
          (scanMembers fuel false ⟨j, r⟩).2) ∧
      l.text = .ok name ∧ d.Holds v := by
  obtain ⟨body, ps, rfl, hpieces, hdecode⟩ := key
  have hpos := value.length_pos
  obtain ⟨fuel, rfl⟩ : ∃ f, fuel = f + 1 := ⟨fuel - 1, by omega⟩
  obtain ⟨next, hscan⟩ := hpieces.scanLiteral (i + 1) (b ++ ':' :: (c ++ (cs ++ r)))
  obtain ⟨d, j, hd, hholds⟩ := hv (fuel + 1) (next + b.length + 1 + c.length) r hfuel hr
  refine ⟨⟨i + 1, ps, .closed⟩, next + b.length, d, j, ?_, text_of_spelled hdecode, hholds⟩
  simp only [List.cons_append, scanMember, hscan,
    skipSpace_blank before (by decide : isSpace ':' = false), scanDoc_append after, hd]

theorem scans_number {cs : List Char} {l : NumberLiteral} {n : Option Number}
    (unsigned : SpellsUnsigned cs l) (sign : l.negative = false)
    (meaning : l.value.toOption = n) : Scans cs (.value (.number n)) := by
  intro fuel i r hfuel hr
  obtain ⟨c, s, rfl, hc⟩ := unsigned.head
  obtain ⟨fuel, rfl, -⟩ := exists_succ_of_fuel hfuel
  obtain ⟨j, hscan⟩ := unsigned.scan hr i
  rw [sign, List.cons_append] at hscan
  rw [List.cons_append, scanDoc_number hc, numberDoc, hscan]
  exact ⟨_, _, rfl, meaning⟩

theorem scans_minus {cs : List Char} {l : NumberLiteral} {n : Option Number}
    (unsigned : SpellsUnsigned cs l) (sign : l.negative = true)
    (meaning : l.value.toOption = n) : Scans ('-' :: cs) (.value (.number n)) := by
  intro fuel i r hfuel hr
  obtain ⟨fuel, rfl, -⟩ := exists_succ_of_fuel hfuel
  obtain ⟨j, hscan⟩ := unsigned.scan hr (i + 1)
  rw [sign] at hscan
  rw [List.cons_append, scanDoc, skipSpace_solid (by decide)]
  simp only [numberDoc, hscan]
  exact ⟨_, _, rfl, meaning⟩

theorem scans_string {cs : List Char} {s : String} (spelled : SpellsString cs s) :
    Scans cs (.value (.string s)) := by
  intro fuel i r hfuel hr
  obtain ⟨body, ps, rfl, hpieces, hdecode⟩ := spelled
  obtain ⟨fuel, rfl, -⟩ := exists_succ_of_fuel hfuel
  obtain ⟨after, hscan⟩ := hpieces.scanLiteral (i + 1) r
  rw [List.cons_append, scanDoc, skipSpace_solid (by decide)]
  simp only [stringDoc, hscan]
  exact ⟨_, _, rfl, text_of_spelled hdecode⟩

theorem scans_item {first : Bool} {sep cs ds : List Char} {v : Written} {vs : List Written}
    (separates : Separates first sep) (value : Spells cs (.value v))
    (rest : Spells ds (.items false vs)) (hv : Scans cs (.value v))
    (hvs : Scans ds (.items false vs)) : Scans (sep ++ (cs ++ ds)) (.items first (v :: vs)) := by
  intro fuel i r hfuel
  have hpos := rest.length_pos
  obtain ⟨c, tail, rfl, hc⟩ := value.head
  obtain ⟨hsolid, hclose, -⟩ := hc.solid
  simp only [List.length_append, List.length_cons] at hfuel
  obtain ⟨fuel, rfl⟩ : ∃ f, fuel = f + 1 + 1 := ⟨fuel - 2, by omega⟩
  obtain ⟨d, j, hd, hholds⟩ := hv fuel (i + sep.length) (ds ++ r)
    (by rw [List.length_cons]; omega) (rest.items_endsNumber r)
  obtain ⟨items, k, hitems, hall⟩ := hvs fuel j r (by omega)
  rw [List.append_assoc, List.append_assoc, List.cons_append,
    scanItems_separates separates hsolid hclose, scanItem]
  rw [List.cons_append] at hd
  simp only [hd, hitems]
  exact ⟨_, _, rfl, hholds, hall⟩

theorem scans_member {first : Bool} {sep ks b c cs ds : List Char} {name : String} {v : Written}
    {ms : List (String × Written)} (separates : Separates first sep) (key : SpellsString ks name)
    (before : Blank b) (after : Blank c) (value : Spells cs (.value v))
    (rest : Spells ds (.members false ms)) (hv : Scans cs (.value v))
    (hms : Scans ds (.members false ms)) :
    Scans (sep ++ (ks ++ (b ++ ':' :: (c ++ (cs ++ ds))))) (.members first ((name, v) :: ms)) := by
  intro fuel i r hfuel
  have hpos := rest.length_pos
  simp only [List.length_append, List.length_cons] at hfuel
  obtain ⟨fuel, rfl⟩ : ∃ f, fuel = f + 1 + 1 := ⟨fuel - 2, by omega⟩
  obtain ⟨lead, hlead⟩ : ∃ lead, scanMembers (fuel + 1 + 1) first
      ⟨i, sep ++ (ks ++ (b ++ ':' :: (c ++ (cs ++ (ds ++ r)))))⟩ =
        scanMember (fuel + 1) lead
          ⟨i + sep.length, ks ++ (b ++ ':' :: (c ++ (cs ++ (ds ++ r))))⟩ := by
    obtain ⟨body, ps, rfl, -⟩ := key
    obtain ⟨lead, hlead⟩ := scanMembers_separates separates
    exact ⟨_, hlead _ _ _⟩
  obtain ⟨l, place, d, j, hmember, hname, hholds⟩ := scanMember_of_scans key before after value hv
    (by omega : 3 * cs.length ≤ fuel) (rest.members_endsNumber r) lead (i + sep.length)
  obtain ⟨members, k, hmembers, hall⟩ := hms fuel j r (by omega)
  simp only [List.append_assoc, List.cons_append]
  rw [hlead, hmember, hmembers]
  exact ⟨_, _, rfl, hname, hholds, hall⟩

/-- The scanner takes every spelling apart, up to its end. -/
theorem Spells.scans {cs : List Char} {p : Part} (h : Spells cs p) : Scans cs p := by
  induction h with
  | null | yes | no =>
    intro fuel i r hfuel hr
    obtain ⟨fuel, rfl, -⟩ := exists_succ_of_fuel hfuel
    rw [List.cons_append, scanDoc, skipSpace_solid (by decide)]
    refine ⟨_, _, rfl, ?_⟩
    trivial
  | number unsigned sign meaning => exact scans_number unsigned sign meaning
  | minus unsigned sign meaning => exact scans_minus unsigned sign meaning
  | string spelled => exact scans_string spelled
  | array items ih =>
    intro fuel i r hfuel hr
    obtain ⟨fuel, rfl, hleft⟩ := exists_succ_of_fuel hfuel
    obtain ⟨items, j, hscan, hholds⟩ := ih fuel (i + 1) r hleft
    rw [List.cons_append, scanDoc, skipSpace_solid (by decide)]
    simp only [hscan]
    exact ⟨_, _, rfl, hholds⟩
  | object members ih =>
    intro fuel i r hfuel hr
    obtain ⟨fuel, rfl, hleft⟩ := exists_succ_of_fuel hfuel
    obtain ⟨members, j, hscan, hholds⟩ := ih fuel (i + 1) r hleft
    rw [List.cons_append, scanDoc, skipSpace_solid (by decide)]
    simp only [hscan]
    exact ⟨_, _, rfl, hholds⟩
  | @noItems first b blank =>
    intro fuel i r hfuel
    rw [List.length_append] at hfuel
    obtain ⟨fuel, rfl, -⟩ := exists_succ_of_fuel hfuel
    rw [List.append_assoc, List.singleton_append, scanItems_close first blank]
    exact ⟨_, _, rfl, trivial⟩
  | @noMembers first b blank =>
    intro fuel i r hfuel
    rw [List.length_append] at hfuel
    obtain ⟨fuel, rfl, -⟩ := exists_succ_of_fuel hfuel
    rw [List.append_assoc, List.singleton_append, scanMembers_close first blank]
    exact ⟨_, _, rfl, trivial⟩
  | item separates value rest ihv ihr => exact scans_item separates value rest ihv ihr
  | member separates key before after value rest ihv ihr =>
    exact scans_member separates key before after value rest ihv ihr

theorem Blank.skipSpace {b : List Char} (h : Blank b) (i : Nat) :
    (Cursor.skipSpace ⟨i, b⟩).rest = [] := by
  induction b generalizing i with
  | nil => rw [Cursor.skipSpace]
  | cons c b ih =>
    rw [Cursor.skipSpace, if_pos (h c List.mem_cons_self)]
    exact ih (fun d hd => h d (List.mem_cons_of_mem _ hd)) (i + 1)

/-- A text of a value with blanks around it is taken apart with nothing left behind. -/
theorem Spells.source {cs b c : List Char} {v : Written} (h : Spells cs (.value v))
    (before : Blank b) (after : Blank c) :
    ∃ d, Source.ofChars (b ++ (cs ++ c)) = ⟨d, none⟩ ∧ d.Holds v := by
  obtain ⟨d, j, hscan, hholds⟩ := h.scans (3 * (b ++ (cs ++ c)).length + 3) (0 + b.length) c
    (by simp only [List.length_append]; omega) after.endsNumber
  refine ⟨d, ?_, hholds⟩
  rw [Source.ofChars, scanDoc_append before, hscan]
  simp [after.skipSpace j]

/-- The text is a spelling of the value, with blanks around it. -/
def IsText (raw : String) (v : Written) : Prop :=
  ∃ before body after, raw.toList = before ++ (body ++ after) ∧ Blank before ∧
    Spells body (.value v) ∧ Blank after

theorem IsText.source {raw : String} {v : Written} (h : IsText raw v) :
    ∃ d, Source.ofText raw = ⟨d, none⟩ ∧ d.Holds v := by
  obtain ⟨before, body, after, hraw, hbefore, hbody, hafter⟩ := h
  rw [Source.ofText, hraw]
  exact hbody.source hbefore hafter

end Devnet.Json
