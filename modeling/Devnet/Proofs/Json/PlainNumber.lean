import Devnet.Proofs.Json.Spelling

namespace Devnet.Json

/-- Decimal digits without a sign, point or exponent; a zero comes first only where it is alone. -/
structure PlainDigits (cs : List Char) : Prop where
  nonempty : cs ≠ []
  digits : ∀ c ∈ cs, c.isDigit = true
  lead : cs.head? = some '0' → cs = ['0']

theorem ofDigitChars_digitChar {ds : List Nat} (h : ∀ d ∈ ds, d < 10) (n : Nat) :
    Nat.ofDigitChars 10 (ds.map Nat.digitChar) n = ds.foldl (fun n d => 10 * n + d) n := by
  induction ds generalizing n with
  | nil => rfl
  | cons d ds ih =>
    obtain ⟨hd, hds⟩ := List.forall_mem_cons.mp h
    rw [List.map_cons, Nat.ofDigitChars_cons_digitChar_of_lt_ten hd, ih hds, List.foldl_cons]

theorem SpellsWhole.plain {cs : List Char} {ds : List Nat} (h : SpellsWhole cs ds) :
    PlainDigits cs := by
  obtain ⟨⟨rfl, hne, hsmall⟩, hlead⟩ := h
  refine ⟨by simpa using hne, ?_, ?_⟩
  · intro c hc
    obtain ⟨d, hd, rfl⟩ := List.mem_map.mp hc
    rw [Nat.isDigit_digitChar, decide_eq_true (hsmall d hd)]
  · intro hzero
    cases ds with
    | nil => exact absurd rfl hne
    | cons d ds =>
      have hd : d = 0 := Nat.digitChar_eq_zero.mp (Option.some.inj hzero)
      rw [hlead (congrArg some hd)]
      rfl

/-- The digits of a number are a plain literal. -/
theorem spells_toDigits (n : Nat) :
    ∃ m, Spells (Nat.toDigits 10 n) (.value (.number m)) ∧ PlainDigits (Nat.toDigits 10 n) := by
  obtain ⟨ds, hdigits, -, hlead⟩ := toDigits_spells n
  have hwhole : SpellsWhole (Nat.toDigits 10 n) ds := ⟨hdigits, hlead⟩
  have hparts := @SpellsUnsigned.parts false _ [] [] _ _ _ hwhole .absent .absent
  rw [List.append_nil, List.append_nil] at hparts
  exact ⟨_, .number hparts rfl rfl, hwhole.plain⟩

theorem SpellsUnsigned.plain_iff {cs : List Char} {l : NumberLiteral} (h : SpellsUnsigned cs l) :
    PlainDigits cs ↔ l.fraction = none ∧ l.exponent = none := by
  cases h with
  | @parts negative w f e whole fraction exponent hw hf he =>
    constructor
    · intro hplain
      have hdigit {c : Char} (hc : c ∈ f ++ e) : c.isDigit = true :=
        hplain.digits c (List.mem_append_right w hc)
      have hmark {c : Char} (mark : c = 'e' ∨ c = 'E') (hc : c ∈ f ++ e) : False := by
        have hc := hdigit hc
        rcases mark with rfl | rfl <;> cases hc
      refine ⟨?_, ?_⟩
      · cases hf with
        | absent => rfl
        | present =>
          have hpoint : '.'.isDigit = true := hdigit (by simp)
          cases hpoint
      · cases he with
        | absent => rfl
        | unsigned mark | plus mark | minus mark => exact (hmark mark (by simp)).elim
    · rintro ⟨rfl, rfl⟩
      cases hf
      cases he
      rw [List.append_nil, List.append_nil]
      exact hw.plain

theorem SpellsUnsigned.value_eq {cs : List Char} {l : NumberLiteral} (h : SpellsUnsigned cs l)
    (hfraction : l.fraction = none) (hexponent : l.exponent = none) :
    Nat.ofDigitChars 10 cs 0 = ofDigits l.whole := by
  cases h with
  | @parts negative w f e whole fraction exponent hw hf he =>
    subst hfraction hexponent
    cases hf
    cases he
    obtain ⟨⟨rfl, -, hsmall⟩, -⟩ := hw
    rw [List.append_nil, List.append_nil, ofDigitChars_digitChar hsmall]
    rfl

/-- A sign, a point, an exponent or too high a value stands for something else. -/
theorem Spells.natural_iff {cs : List Char} {n : Option Number}
    (h : Spells cs (.value (.number n))) (k : UInt64) :
    n = some (.natural k) ↔ PlainDigits cs ∧ Nat.ofDigitChars 10 cs 0 = k.toNat := by
  cases h with
  | @number _ l _ unsigned sign meaning =>
    rw [← meaning, toOption_eq_some_iff, NumberLiteral.value_eq_natural_iff, unsigned.plain_iff]
    constructor
    · rintro ⟨-, hfraction, hexponent, hvalue⟩
      exact ⟨⟨hfraction, hexponent⟩, (unsigned.value_eq hfraction hexponent).trans hvalue⟩
    · rintro ⟨⟨hfraction, hexponent⟩, hvalue⟩
      exact ⟨sign, hfraction, hexponent, (unsigned.value_eq hfraction hexponent).symm.trans hvalue⟩
  | @minus cs l _ unsigned sign meaning =>
    rw [← meaning, toOption_eq_some_iff, NumberLiteral.value_eq_natural_iff, sign]
    constructor
    · rintro ⟨hpositive, -⟩
      cases hpositive
    · rintro ⟨hplain, -⟩
      have hminus : '-'.isDigit = true := hplain.digits '-' List.mem_cons_self
      cases hminus

end Devnet.Json
