namespace Devnet.Text

/-- The `width` last hexadecimal digits of `n`, lower case, the highest first. -/
def hexFixed : (width : Nat) → (n : Nat) → List Char
  | 0, _ => []
  | w + 1, n => hexFixed w (n / 16) ++ [Nat.digitChar (n % 16)]

def hexPlain (n : Nat) : List Char := Nat.toDigits 16 n

def hexBytes (bytes : List UInt8) : List Char :=
  bytes.flatMap fun b => hexFixed 2 b.toNat

def hexValue? (c : Char) : Option Nat :=
  if '0' ≤ c ∧ c ≤ '9' then some (c.toNat - '0'.toNat)
  else if 'a' ≤ c ∧ c ≤ 'f' then some (c.toNat - 'a'.toNat + 10)
  else if 'A' ≤ c ∧ c ≤ 'F' then some (c.toNat - 'A'.toNat + 10)
  else none

def ofHexDigits (digits : List Nat) : Nat := digits.foldl (fun n d => 16 * n + d) 0

theorem hexFixed_length (w n : Nat) : (hexFixed w n).length = w := by
  induction w generalizing n with
  | zero => rfl
  | succ w ih => simp [hexFixed, ih]

private theorem hexValue_digitChar_fin :
    ∀ d : Fin 16, hexValue? (Nat.digitChar d.val) = some d.val := by decide

theorem hexValue_digitChar {d : Nat} (h : d < 16) : hexValue? (Nat.digitChar d) = some d :=
  hexValue_digitChar_fin ⟨d, h⟩

theorem ofHexDigits_append_singleton (ds : List Nat) (d : Nat) :
    ofHexDigits (ds ++ [d]) = 16 * ofHexDigits ds + d := by
  simp [ofHexDigits]

/-- The digits written for `n` are read as `n`, up to the width. -/
theorem hexValue_hexFixed (w n : Nat) :
    ∃ ds, (hexFixed w n).mapM hexValue? = some ds ∧ ofHexDigits ds = n % Nat.pow 16 w := by
  induction w generalizing n with
  | zero => exact ⟨[], by simp [hexFixed], by simp [ofHexDigits, Nat.mod_one]⟩
  | succ w ih =>
    obtain ⟨ds, hds, hval⟩ := ih (n / 16)
    have hpow : Nat.pow 16 (w + 1) = 16 * Nat.pow 16 w := Nat.mul_comm (Nat.pow 16 w) 16
    refine ⟨ds ++ [n % 16], ?_, ?_⟩
    · simp [hexFixed, List.mapM_append, hds, hexValue_digitChar (Nat.mod_lt n (by decide))]
    · rw [ofHexDigits_append_singleton, hval, hpow, Nat.mod_mul]
      omega

end Devnet.Text
