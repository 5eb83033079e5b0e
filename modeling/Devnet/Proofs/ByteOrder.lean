import Devnet.Text.Utf8
import Mathlib.Data.String.Basic

namespace Devnet.Text

theorem cons_ofNat_lt_iff {a b : Nat} (ha : a < 256) (hb : b < 256) {xs ys : List UInt8} :
    UInt8.ofNat a :: xs < UInt8.ofNat b :: ys ↔ a < b ∨ a = b ∧ xs < ys := by
  rw [List.cons_lt_cons_iff, UInt8.lt_iff_toNat_lt, ← UInt8.toNat_inj,
    UInt8.toNat_ofNat_of_lt' ha, UInt8.toNat_ofNat_of_lt' hb]

theorem toNat_val_lt (c : Char) : c.val.toNat < 0x110000 := by
  rcases c.valid with h | ⟨-, h⟩ <;> omega

/-- A continuation byte holds six bits: of two numbers the lower one is lower in its other bits, or
alike in these and lower in its last six. -/
theorem div_lt_or_mod_lt {m n : Nat} (h : m < n) :
    m / 64 < n / 64 ∨ m / 64 = n / 64 ∧ m % 64 < n % 64 := by omega

/-- The bytes of a lower character are lower, whatever stands behind them. -/
theorem utf8EncodeChar_append_lt {c d : Char} (h : c < d) (xs ys : List UInt8) :
    String.utf8EncodeChar c ++ xs < String.utf8EncodeChar d ++ ys := by
  have hlt : c.val.toNat < d.val.toNat := h
  have hc := toNat_val_lt c
  have hd := toNat_val_lt d
  have htwice (n : Nat) : n / 4096 = n / 64 / 64 := (Nat.div_div_eq_div_mul n 64 64).symm
  have hthrice (n : Nat) : n / 262144 = n / 64 / 64 / 64 := by omega
  unfold String.utf8EncodeChar
  generalize c.val.toNat = m at *
  generalize d.val.toNat = n at *
  simp only [htwice, hthrice]
  -- a lower character has no more bytes than a higher one; with fewer its first byte is lower
  split_ifs <;> try omega
  all_goals
    simp only [List.cons_append, List.nil_append]
    simp (disch := omega) only [cons_ofNat_lt_iff]
    rcases div_lt_or_mod_lt hlt with hhigh | ⟨hhigh, hlow⟩ <;> omega

theorem flatMap_utf8EncodeChar_lt {as bs : List Char} (h : as < bs) :
    as.flatMap String.utf8EncodeChar < bs.flatMap String.utf8EncodeChar := by
  induction h with
  | @nil b bs =>
    obtain ⟨x, xs, hb⟩ := List.exists_cons_of_ne_nil (String.utf8EncodeChar_ne_nil (c := b))
    rw [List.flatMap_nil, List.flatMap_cons, hb]
    exact List.nil_lt_cons ..
  | @rel a as b bs hab => exact utf8EncodeChar_append_lt hab _ _
  | @cons a as bs _ ih => exact List.append_left_lt ih

/-- UTF-8 keeps the order of texts. -/
theorem encodeUtf8_lt_iff {s t : String} : encodeUtf8 s < encodeUtf8 t ↔ s < t := by
  have hmono {s t : String} (h : s < t) : encodeUtf8 s < encodeUtf8 t :=
    flatMap_utf8EncodeChar_lt (String.lt_iff_toList_lt.mp h)
  refine ⟨fun h => ?_, hmono⟩
  by_contra hnot
  rcases eq_or_lt_of_le (not_lt.mp hnot) with rfl | hlt
  · exact List.lt_irrefl _ h
  · exact List.lt_asymm h (hmono hlt)

end Devnet.Text
