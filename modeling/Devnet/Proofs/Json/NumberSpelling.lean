import Devnet.Json.Document
import Devnet.Json.Printer

namespace Devnet.Json

structure SpellsDigits (cs : List Char) (ds : List Nat) : Prop where
  chars : cs = ds.map Nat.digitChar
  nonempty : ds ≠ []
  small : ∀ d ∈ ds, d < 10

/-- The digits before the point: a zero stands alone. -/
structure SpellsWhole (cs : List Char) (ds : List Nat) : Prop extends SpellsDigits cs ds where
  lead : ds.head? = some 0 → ds = [0]

inductive SpellsFraction : List Char → Option (List Nat) → Prop where
  | absent : SpellsFraction [] none
  | present {cs : List Char} {ds : List Nat} (digits : SpellsDigits cs ds) :
      SpellsFraction ('.' :: cs) (some ds)

inductive SpellsExponent : List Char → Option (Bool × List Nat) → Prop where
  | absent : SpellsExponent [] none
  | unsigned {e : Char} {cs : List Char} {ds : List Nat} (mark : e = 'e' ∨ e = 'E')
      (digits : SpellsDigits cs ds) : SpellsExponent (e :: cs) (some (false, ds))
  | plus {e : Char} {cs : List Char} {ds : List Nat} (mark : e = 'e' ∨ e = 'E')
      (digits : SpellsDigits cs ds) : SpellsExponent (e :: '+' :: cs) (some (false, ds))
  | minus {e : Char} {cs : List Char} {ds : List Nat} (mark : e = 'e' ∨ e = 'E')
      (digits : SpellsDigits cs ds) : SpellsExponent (e :: '-' :: cs) (some (true, ds))

/-- The characters spell the literal, its sign aside. -/
inductive SpellsUnsigned : List Char → NumberLiteral → Prop where
  | parts {negative : Bool} {w f e : List Char} {whole : List Nat} {fraction : Option (List Nat)}
      {exponent : Option (Bool × List Nat)} (hw : SpellsWhole w whole)
      (hf : SpellsFraction f fraction) (he : SpellsExponent e exponent) :
      SpellsUnsigned (w ++ (f ++ e)) ⟨negative, whole, fraction, exponent⟩

def EndsDigits : List Char → Prop
  | [] => True
  | c :: _ => digit? c = none

def EndsNumber : List Char → Prop
  | [] => True
  | c :: _ => digit? c = none ∧ c ≠ '.' ∧ c ≠ 'e' ∧ c ≠ 'E'

theorem EndsNumber.endsDigits {r : List Char} (h : EndsNumber r) : EndsDigits r := by
  cases r with
  | nil => trivial
  | cons c r => exact h.1

private theorem digit_digitChar_fin : ∀ d : Fin 10, digit? (Nat.digitChar d.val) = some d.val := by
  decide

theorem digit_digitChar {d : Nat} (h : d < 10) : digit? (Nat.digitChar d) = some d :=
  digit_digitChar_fin ⟨d, h⟩

theorem digitChar_ne {d : Nat} (h : d < 10) {c : Char} (hc : digit? c = none) :
    Nat.digitChar d ≠ c := by
  rintro rfl
  rw [digit_digitChar h] at hc
  cases hc

theorem EndsDigits.scan {r : List Char} (h : EndsDigits r) : scanDigits r = ([], r) := by
  cases r with
  | nil => rfl
  | cons c r =>
    have hc : digit? c = none := h
    rw [scanDigits, hc]

theorem scanDigits_append {ds : List Nat} (h : ∀ d ∈ ds, d < 10) {r : List Char}
    (hr : EndsDigits r) : scanDigits (ds.map Nat.digitChar ++ r) = (ds, r) := by
  induction ds with
  | nil => exact hr.scan
  | cons d ds ih =>
    have hd := digit_digitChar (h d List.mem_cons_self)
    have hrest := ih fun d hd => h d (List.mem_cons_of_mem _ hd)
    rw [List.map_cons, List.cons_append, scanDigits, hd, hrest]

theorem SpellsDigits.scan {cs : List Char} {ds : List Nat} (h : SpellsDigits cs ds)
    {r : List Char} (hr : EndsDigits r) (extra i : Nat) :
    scanSomeDigits extra ⟨i, cs ++ r⟩ = .ok (ds, ⟨i + ds.length, r⟩) := by
  have hscan := scanDigits_append h.small hr
  rw [← h.chars] at hscan
  unfold scanSomeDigits
  rw [hscan]
  cases ds with
  | nil => exact absurd rfl h.nonempty
  | cons d ds => rfl

theorem SpellsWhole.scan {cs : List Char} {ds : List Nat} (h : SpellsWhole cs ds)
    {r : List Char} (hr : EndsDigits r) (i : Nat) :
    scanWhole ⟨i, cs ++ r⟩ = .ok (ds, ⟨i + ds.length, r⟩) := by
  have hsome := h.toSpellsDigits.scan hr 1 i
  obtain ⟨⟨rfl, hne, hsmall⟩, hlead⟩ := h
  cases ds with
  | nil => exact absurd rfl hne
  | cons d ds =>
    by_cases hd : d = 0
    · obtain rfl : ds = [] := by
        have hzero := hlead (by rw [hd]; rfl)
        exact (List.cons.inj hzero).2
      subst hd
      have hchar : Nat.digitChar 0 = '0' := by decide
      simp only [scanWhole, List.map_cons, List.map_nil, List.cons_append, List.nil_append, hchar,
        hr.scan, List.length_singleton]
    · have hzero : Nat.digitChar d ≠ '0' := by
        have hlt := hsmall d List.mem_cons_self
        intro heq
        have hvalue := digit_digitChar hlt
        rw [heq] at hvalue
        exact hd (Option.some.inj hvalue).symm
      rw [scanWhole]
      split
      · rename_i heq
        exact absurd (List.cons.inj heq).1 hzero
      · exact hsome

theorem SpellsFraction.scan {cs : List Char} {ds : Option (List Nat)} (h : SpellsFraction cs ds)
    {r : List Char} (hr : EndsDigits r) (hpoint : r.head? ≠ some '.') (i : Nat) :
    ∃ j, scanFraction ⟨i, cs ++ r⟩ = .ok (ds, ⟨j, r⟩) := by
  cases h with
  | absent =>
    refine ⟨i, ?_⟩
    rw [List.nil_append, scanFraction]
    split
    · rename_i heq
      dsimp only at heq
      rw [heq] at hpoint
      exact absurd rfl hpoint
    · rfl
  | present digits =>
    have hdigits := digits.scan hr 1 (i + 1)
    rw [List.cons_append, scanFraction]
    simp only [hdigits]
    exact ⟨_, rfl⟩

theorem SpellsDigits.scanSign {cs : List Char} {ds : List Nat} (h : SpellsDigits cs ds)
    (r : List Char) (i : Nat) : Json.scanSign ⟨i, cs ++ r⟩ = (false, ⟨i, cs ++ r⟩) := by
  obtain ⟨rfl, hne, hsmall⟩ := h
  cases ds with
  | nil => exact absurd rfl hne
  | cons d ds =>
    have hd := hsmall d List.mem_cons_self
    have hplus : Nat.digitChar d ≠ '+' := digitChar_ne hd (by decide)
    have hminus : Nat.digitChar d ≠ '-' := digitChar_ne hd (by decide)
    unfold Json.scanSign
    split
    · rename_i heq
      exact absurd (List.cons.inj heq).1 hplus
    · rename_i heq
      exact absurd (List.cons.inj heq).1 hminus
    · rfl

theorem scanExponent_mark {e : Char} (mark : e = 'e' ∨ e = 'E') (r : List Char) (i : Nat) :
    scanExponent ⟨i, e :: r⟩ =
      (scanSomeDigits 1 (scanSign ⟨i + 1, r⟩).2).map
        fun (ds, c) => (some ((scanSign ⟨i + 1, r⟩).1, ds), c) := by
  simp only [scanExponent, if_pos mark]

theorem SpellsExponent.scan {cs : List Char} {e : Option (Bool × List Nat)}
    (h : SpellsExponent cs e) {r : List Char} (hr : EndsNumber r) (i : Nat) :
    ∃ j, scanExponent ⟨i, cs ++ r⟩ = .ok (e, ⟨j, r⟩) := by
  cases h with
  | absent =>
    refine ⟨i, ?_⟩
    cases r with
    | nil => rfl
    | cons c r =>
      obtain ⟨-, -, he, hE⟩ := hr
      exact if_neg (not_or.mpr ⟨he, hE⟩)
  | unsigned mark digits =>
    have hdigits := digits.scan hr.endsDigits 1 (i + 1)
    rw [List.cons_append, scanExponent_mark mark, digits.scanSign, hdigits]
    exact ⟨_, rfl⟩
  | plus mark digits =>
    have hdigits := digits.scan hr.endsDigits 1 (i + 1 + 1)
    rw [List.cons_append, List.cons_append, scanExponent_mark mark]
    simp only [Json.scanSign, hdigits]
    exact ⟨_, rfl⟩
  | minus mark digits =>
    have hdigits := digits.scan hr.endsDigits 1 (i + 1 + 1)
    rw [List.cons_append, List.cons_append, scanExponent_mark mark]
    simp only [Json.scanSign, hdigits]
    exact ⟨_, rfl⟩

/-- Neither a fraction nor an exponent begins with a digit. -/
theorem SpellsExponent.endsDigits {cs : List Char} {e : Option (Bool × List Nat)}
    (h : SpellsExponent cs e) {r : List Char} (hr : EndsNumber r) :
    EndsDigits (cs ++ r) ∧ (cs ++ r).head? ≠ some '.' := by
  have hmark {e : Char} (mark : e = 'e' ∨ e = 'E') : digit? e = none ∧ e ≠ '.' := by
    rcases mark with rfl | rfl <;> decide
  cases h with
  | absent =>
    refine ⟨hr.endsDigits, ?_⟩
    cases r with
    | nil => simp
    | cons c r => simpa using hr.2.1
  | unsigned mark => exact ⟨(hmark mark).1, by simpa using (hmark mark).2⟩
  | plus mark => exact ⟨(hmark mark).1, by simpa using (hmark mark).2⟩
  | minus mark => exact ⟨(hmark mark).1, by simpa using (hmark mark).2⟩

theorem SpellsFraction.endsDigits {cs : List Char} {ds : Option (List Nat)}
    (h : SpellsFraction cs ds) {r : List Char} (hr : EndsDigits r) : EndsDigits (cs ++ r) := by
  cases h with
  | absent => exact hr
  | present => exact (by decide : digit? '.' = none)

/-- The scanner reads every spelling of a number up to its end. -/
theorem SpellsUnsigned.scan {cs : List Char} {l : NumberLiteral} (h : SpellsUnsigned cs l)
    {r : List Char} (hr : EndsNumber r) (i : Nat) :
    ∃ j, scanNumber l.negative ⟨i, cs ++ r⟩ = .ok (l, ⟨j, r⟩) := by
  cases h with
  | @parts negative w f e whole fraction exponent hw hf he =>
    obtain ⟨hends, hpoint⟩ := he.endsDigits hr
    have hwhole := hw.scan (hf.endsDigits hends) i
    obtain ⟨j, hfraction⟩ := hf.scan hends hpoint (i + whole.length)
    obtain ⟨k, hexponent⟩ := he.scan hr j
    refine ⟨k, ?_⟩
    simp only [List.append_assoc, scanNumber, hwhole, bind, Except.bind, hfraction, hexponent]
    rfl

theorem ofDigits_append_singleton (ds : List Nat) (d : Nat) :
    ofDigits (ds ++ [d]) = 10 * ofDigits ds + d := by
  simp [ofDigits]

/-- The digits of a number, of which the first is zero only if it is the only one. -/
theorem toDigits_spells (n : Nat) :
    ∃ ds, SpellsDigits (Nat.toDigits 10 n) ds ∧ ofDigits ds = n ∧
      (ds.head? = some 0 → ds = [0]) := by
  induction n using Nat.strongRecOn with
  | ind n ih =>
    by_cases hlt : n < 10
    · refine ⟨[n], ⟨Nat.toDigits_of_lt_base hlt, by simp, by simpa using hlt⟩, by simp [ofDigits],
        fun h => ?_⟩
      rw [Option.some.inj h]
    · obtain ⟨ds, ⟨hchars, hne, hsmall⟩, hvalue, hlead⟩ := ih (n / 10) (by omega)
      refine ⟨ds ++ [n % 10], ⟨?_, by simp, ?_⟩, ?_, ?_⟩
      · rw [Nat.toDigits_of_base_le (by decide) (by omega), hchars, List.map_append]
        rfl
      · intro d hd
        rcases List.mem_append.mp hd with hd | hd
        · exact hsmall d hd
        · rw [List.mem_singleton.mp hd]
          omega
      · rw [ofDigits_append_singleton, hvalue]
        omega
      · intro h
        cases ds with
        | nil => exact absurd rfl hne
        | cons d ds =>
          rw [hlead h] at hvalue
          have hten : n / 10 = 0 := hvalue.symm
          omega

/-- A natural number is printed as a spelling that stands for it. -/
theorem spellsUnsigned_natural (n : UInt64) :
    ∃ l : NumberLiteral, SpellsUnsigned (Nat.toDigits 10 n.toNat) l ∧ l.negative = false ∧
      l.value = .ok (.natural n) := by
  obtain ⟨ds, hdigits, hvalue, hlead⟩ := toDigits_spells n.toNat
  refine ⟨⟨false, ds, none, none⟩, ?_, rfl, ?_⟩
  · have hparts := @SpellsUnsigned.parts false _ [] [] _ _ _ ⟨hdigits, hlead⟩ .absent .absent
    rwa [List.append_nil, List.append_nil] at hparts
  · exact (NumberLiteral.value_eq_natural_iff _ n).mpr ⟨rfl, rfl, rfl, hvalue⟩

end Devnet.Json
