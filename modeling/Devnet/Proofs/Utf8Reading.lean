import Devnet.Text.Utf8
import Mathlib.Tactic.IntervalCases
import Mathlib.Tactic.SplitIfs
import Mathlib.Tactic.Tauto

namespace Devnet.Text

theorem continuation_zero_iff {low high acc v : Nat} {bs rest : List UInt8} :
    continuation 0 low high acc bs = (some v, rest) ↔ acc = v ∧ bs = rest := by
  simp [continuation]

theorem continuation_succ_iff {n low high acc v : Nat} {bs rest : List UInt8} :
    continuation (n + 1) low high acc bs = (some v, rest) ↔
      ∃ b tail, bs = b :: tail ∧ low ≤ b.toNat ∧ b.toNat ≤ high ∧
        continuation n 0x80 0xBF (acc * 64 + b.toNat % 64) tail = (some v, rest) := by
  cases bs with
  | nil => simp [continuation]
  | cons b tail =>
    rw [continuation]
    split
    · rename_i h
      simp [h]
    · rename_i h
      simp only [Prod.mk.injEq, reduceCtorEq, false_and, List.cons.injEq, false_iff, not_exists]
      rintro c t ⟨⟨rfl, rfl⟩, hlow, hhigh, -⟩
      exact h ⟨hlow, hhigh⟩

/-- What a lead byte announces: how many continuation bytes, the limits of the first of them, which
leave out what has a shorter form and what is no character, and its own bits. -/
inductive Leads (b : Nat) : (n low high bits : Nat) → Prop where
  | one (hb : b < 0x80) : Leads b 0 0x80 0xBF b
  | two {bits : Nat} (hb : b = 0xC0 + bits) (hbits : 2 ≤ bits ∧ bits < 32) :
      Leads b 1 0x80 0xBF bits
  | three {bits low high : Nat} (hb : b = 0xE0 + bits) (hbits : bits < 16)
      (hlow : low = if bits = 0 then 0xA0 else 0x80)
      (hhigh : high = if bits = 0xD then 0x9F else 0xBF) : Leads b 2 low high bits
  | four {bits low high : Nat} (hb : b = 0xF0 + bits) (hbits : bits < 5)
      (hlow : low = if bits = 0 then 0x90 else 0x80)
      (hhigh : high = if bits = 4 then 0x8F else 0xBF) : Leads b 3 low high bits

theorem lead_eq_some_iff {b n low high bits : Nat} :
    lead? b = some (n, low, high, bits) ↔ Leads b n low high bits := by
  constructor
  · intro h
    unfold lead? at h
    split_ifs at h <;> cases h
    · exact .one ‹_›
    · exact .two (by omega) (by omega)
    · exact .three (by omega) (by omega) rfl rfl
    · exact .three (by omega) (by omega) rfl rfl
    · exact .three (by omega) (by omega) (by rw [if_neg (by omega)]) (by rw [if_neg (by omega)])
    · exact .four (by omega) (by omega) rfl rfl
    · exact .four (by omega) (by omega) (by rw [if_neg (by omega)]) (by rw [if_neg (by omega)])
    · exact .four (by omega) (by omega) rfl rfl
  · intro h
    cases h with
    | one hb => rw [lead?, if_pos hb]
    | two hb hbits =>
      obtain ⟨hlow, hhigh⟩ := hbits
      subst hb
      interval_cases bits <;> rfl
    | three hb hbits hlow hhigh | four hb hbits hlow hhigh =>
      subst hb hlow hhigh
      interval_cases bits <;> rfl

theorem firstChar_eq_some_iff {b : UInt8} {bs rest : List UInt8} {c : Char} :
    firstChar b bs = (some c, rest) ↔
      ∃ n low high bits v, Leads b.toNat n low high bits ∧
        continuation n low high bits bs = (some v, rest) ∧ Char.ofNat v = c := by
  simp only [← lead_eq_some_iff]
  unfold firstChar
  cases lead? b.toNat with
  | none => simp
  | some l =>
    obtain ⟨n, low, high, bits⟩ := l
    rcases hcont : continuation n low high bits bs with ⟨_ | v, r⟩
    · simp [hcont]
    · simp [hcont]
      tauto

/-- The number of a character: below the halves of pairs or above them. -/
def IsScalar (v : Nat) : Prop := v < 0xD800 ∨ 0xDFFF < v ∧ v < 0x110000

theorem val_ofNat {v : Nat} (h : IsScalar v) : (Char.ofNat v).val.toNat = v := by
  have hvalid : v.isValidChar := h
  rw [Char.ofNat, dif_pos hvalid]
  rfl

theorem isScalar_val (c : Char) : IsScalar c.val.toNat := c.valid

theorem ofNat_val (c : Char) : Char.ofNat c.val.toNat = c := c.ofNat_toNat

theorem eq_ofNat {b : UInt8} {n : Nat} (h : b.toNat = n) : b = UInt8.ofNat n := by
  rw [← h, UInt8.ofNat_toNat]

theorem toNat_byte {n : Nat} (h : n < 256) : (UInt8.ofNat n).toNat = n :=
  UInt8.toNat_ofNat_of_lt' h

/-- The byte that continues a character with six of its bits. -/
theorem toNat_continuing (n : Nat) : (UInt8.ofNat (n % 64 + 128)).toNat = n % 64 + 128 :=
  toNat_byte (by omega)

section Encoded

variable {b x y z : UInt8} {bits : Nat}

theorem utf8EncodeChar_one (hb : b.toNat < 0x80) :
    String.utf8EncodeChar (Char.ofNat b.toNat) = [b] := by
  rw [String.utf8EncodeChar, val_ofNat (.inl (by omega))]
  simp only [if_pos (show b.toNat ≤ 127 by omega), UInt8.ofNat_toNat]

theorem utf8EncodeChar_two (hb : b.toNat = 0xC0 + bits) (hbits : 2 ≤ bits ∧ bits < 32)
    (hx : 0x80 ≤ x.toNat ∧ x.toNat ≤ 0xBF) :
    String.utf8EncodeChar (Char.ofNat (bits * 64 + x.toNat % 64)) = [b, x] := by
  rw [String.utf8EncodeChar, val_ofNat (.inl (by omega)), if_neg (by omega), if_pos (by omega),
    ← eq_ofNat (by omega : b.toNat = _), ← eq_ofNat (by omega : x.toNat = _)]

theorem utf8EncodeChar_three (hb : b.toNat = 0xE0 + bits) (hbits : bits < 16)
    (hx : 0x80 ≤ x.toNat ∧ x.toNat ≤ 0xBF) (hy : 0x80 ≤ y.toNat ∧ y.toNat ≤ 0xBF)
    (hlow : bits = 0 → 0xA0 ≤ x.toNat) (hhigh : bits = 0xD → x.toNat ≤ 0x9F) :
    String.utf8EncodeChar (Char.ofNat ((bits * 64 + x.toNat % 64) * 64 + y.toNat % 64)) =
      [b, x, y] := by
  rw [String.utf8EncodeChar, val_ofNat (by unfold IsScalar; omega), if_neg (by omega),
    if_neg (by omega), if_pos (by omega), ← eq_ofNat (by omega : b.toNat = _),
    ← eq_ofNat (by omega : x.toNat = _), ← eq_ofNat (by omega : y.toNat = _)]

theorem utf8EncodeChar_four (hb : b.toNat = 0xF0 + bits) (hbits : bits < 5)
    (hx : 0x80 ≤ x.toNat ∧ x.toNat ≤ 0xBF) (hy : 0x80 ≤ y.toNat ∧ y.toNat ≤ 0xBF)
    (hz : 0x80 ≤ z.toNat ∧ z.toNat ≤ 0xBF)
    (hlow : bits = 0 → 0x90 ≤ x.toNat) (hhigh : bits = 4 → x.toNat ≤ 0x8F) :
    String.utf8EncodeChar (Char.ofNat
      (((bits * 64 + x.toNat % 64) * 64 + y.toNat % 64) * 64 + z.toNat % 64)) = [b, x, y, z] := by
  rw [String.utf8EncodeChar, val_ofNat (by unfold IsScalar; omega), if_neg (by omega),
    if_neg (by omega), if_neg (by omega), ← eq_ofNat (by omega : b.toNat = _),
    ← eq_ofNat (by omega : x.toNat = _), ← eq_ofNat (by omega : y.toNat = _),
    ← eq_ofNat (by omega : z.toNat = _)]

end Encoded

/-- A character that is read was spelled by its own bytes. -/
theorem encoded_of_firstChar {b : UInt8} {bs rest : List UInt8} {c : Char}
    (h : firstChar b bs = (some c, rest)) : b :: bs = String.utf8EncodeChar c ++ rest := by
  obtain ⟨n, low, high, bits, v, hlead, hcont, rfl⟩ := firstChar_eq_some_iff.mp h
  cases hlead with
  | one hb =>
    obtain ⟨rfl, rfl⟩ := continuation_zero_iff.mp hcont
    rw [utf8EncodeChar_one hb, List.singleton_append]
  | two hb hbits =>
    simp only [continuation_succ_iff, continuation_zero_iff] at hcont
    obtain ⟨x, tail, rfl, hx, hx', rfl, rfl⟩ := hcont
    rw [utf8EncodeChar_two hb hbits ⟨hx, hx'⟩]
    rfl
  | three hb hbits hlow hhigh =>
    simp only [continuation_succ_iff, continuation_zero_iff] at hcont
    obtain ⟨x, _, rfl, hfrom, hto, y, tail, rfl, hy, hy', rfl, rfl⟩ := hcont
    have hx : 0x80 ≤ x.toNat ∧ x.toNat ≤ 0xBF := by split_ifs at hlow hhigh <;> omega
    rw [utf8EncodeChar_three hb hbits hx ⟨hy, hy'⟩
      (fun h => by rw [if_pos h] at hlow; omega) (fun h => by rw [if_pos h] at hhigh; omega)]
    rfl
  | four hb hbits hlow hhigh =>
    simp only [continuation_succ_iff, continuation_zero_iff] at hcont
    obtain ⟨x, _, rfl, hfrom, hto, y, _, rfl, hy, hy', z, tail, rfl, hz, hz', rfl, rfl⟩ := hcont
    have hx : 0x80 ≤ x.toNat ∧ x.toNat ≤ 0xBF := by split_ifs at hlow hhigh <;> omega
    rw [utf8EncodeChar_four hb hbits hx ⟨hy, hy'⟩ ⟨hz, hz'⟩
      (fun h => by rw [if_pos h] at hlow; omega) (fun h => by rw [if_pos h] at hhigh; omega)]
    rfl

/-- The bytes of a character are read as it, whatever follows. -/
theorem firstChar_encoded (c : Char) (rest : List UInt8) :
    ∃ b bs, String.utf8EncodeChar c = b :: bs ∧ firstChar b (bs ++ rest) = (some c, rest) := by
  have hscalar := isScalar_val c
  have hchar := ofNat_val c
  unfold IsScalar at hscalar
  unfold String.utf8EncodeChar
  generalize c.val.toNat = v at *
  have hx := toNat_continuing v
  have hy := toNat_continuing (v / 64)
  have hz := toNat_continuing (v / 4096)
  dsimp only
  -- by the number of bytes
  split_ifs <;> refine ⟨_, _, rfl, firstChar_eq_some_iff.mpr ?_⟩
  · have hb : (UInt8.ofNat v).toNat = v := toNat_byte (by omega)
    exact ⟨_, _, _, _, _, .one (by omega), continuation_zero_iff.mpr ⟨hb, rfl⟩, hchar⟩
  · have hb : (UInt8.ofNat (v / 64 % 32 + 192)).toNat = 0xC0 + v / 64 := by
      rw [toNat_byte (by omega)]
      omega
    refine ⟨_, _, _, _, v, .two hb (by omega), ?_, hchar⟩
    refine continuation_succ_iff.mpr ⟨_, _, rfl, by omega, by omega, ?_⟩
    exact continuation_zero_iff.mpr ⟨by omega, rfl⟩
  · have hb : (UInt8.ofNat (v / 4096 % 16 + 224)).toNat = 0xE0 + v / 4096 := by
      rw [toNat_byte (by omega)]
      omega
    refine ⟨_, _, _, _, v, .three hb (by omega) rfl rfl, ?_, hchar⟩
    refine continuation_succ_iff.mpr
      ⟨_, _, rfl, by split_ifs <;> omega, by split_ifs <;> omega, ?_⟩
    refine continuation_succ_iff.mpr ⟨_, _, rfl, by omega, by omega, ?_⟩
    exact continuation_zero_iff.mpr ⟨by omega, rfl⟩
  · have hb : (UInt8.ofNat (v / 262144 % 8 + 240)).toNat = 0xF0 + v / 262144 := by
      rw [toNat_byte (by omega)]
      omega
    refine ⟨_, _, _, _, v, .four hb (by omega) rfl rfl, ?_, hchar⟩
    refine continuation_succ_iff.mpr
      ⟨_, _, rfl, by split_ifs <;> omega, by split_ifs <;> omega, ?_⟩
    refine continuation_succ_iff.mpr ⟨_, _, rfl, by omega, by omega, ?_⟩
    refine continuation_succ_iff.mpr ⟨_, _, rfl, by omega, by omega, ?_⟩
    exact continuation_zero_iff.mpr ⟨by omega, rfl⟩

theorem decodeEach_encoded (cs : List Char) :
    decodeEach (cs.flatMap String.utf8EncodeChar) = cs.map some := by
  induction cs with
  | nil => rw [List.flatMap_nil, decodeEach, List.map_nil]
  | cons c cs ih =>
    obtain ⟨b, bs, hbytes, hfirst⟩ := firstChar_encoded c (cs.flatMap String.utf8EncodeChar)
    rw [List.flatMap_cons, hbytes, List.cons_append, decodeEach, hfirst, List.map_cons, ih]

theorem encoded_of_decodeEach {bytes : List UInt8} {cs : List Char}
    (h : decodeEach bytes = cs.map some) : bytes = cs.flatMap String.utf8EncodeChar := by
  induction cs generalizing bytes with
  | nil =>
    cases bytes with
    | nil => rfl
    | cons b bs =>
      rw [decodeEach] at h
      cases h
  | cons c cs ih =>
    cases bytes with
    | nil =>
      rw [decodeEach] at h
      cases h
    | cons b bs =>
      rw [decodeEach, List.map_cons, List.cons.injEq] at h
      obtain ⟨hchar, hrest⟩ := h
      rw [encoded_of_firstChar (Prod.ext hchar rfl), List.flatMap_cons, ← ih hrest]

theorem mapM_id_eq_some_iff {α : Type} {os : List (Option α)} {as : List α} :
    os.mapM id = some as ↔ os = as.map some := by
  induction os generalizing as with
  | nil => cases as <;> simp
  | cons o os ih =>
    cases o with
    | none => cases as <;> simp [List.mapM_cons]
    | some a => cases as <;> simp [List.mapM_cons, Option.bind_eq_some_iff, ih, and_comm]

/-- Bytes are read as a text exactly if they are its UTF-8. -/
theorem decodeUtf8_eq_some_iff {bytes : List UInt8} {s : String} :
    decodeUtf8? bytes = some s ↔ bytes = encodeUtf8 s := by
  have hlist {cs : List Char} : String.ofList cs = s ↔ cs = s.toList := by
    constructor
    · rintro rfl
      exact String.toList_ofList.symm
    · rintro rfl
      exact String.ofList_toList
  rw [decodeUtf8?, Option.map_eq_some_iff, encodeUtf8]
  simp only [mapM_id_eq_some_iff, hlist, exists_eq_right]
  refine ⟨encoded_of_decodeEach, ?_⟩
  rintro rfl
  exact decodeEach_encoded s.toList

end Devnet.Text
