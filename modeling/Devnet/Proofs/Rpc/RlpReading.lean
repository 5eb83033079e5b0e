import Devnet.Curve.Signature
import Devnet.Rpc.SignedTransfer
import Mathlib.Algebra.Group.Nat.Defs

namespace Devnet.Rlp

open Curve (ofBigEndian)

/-- What is encoded. -/
inductive Item where
  | bytes (bs : List UInt8)
  | list (items : List Item)

/-- A number, unless there is a zero in front of it. -/
def number? (bs : List UInt8) : Option Nat :=
  if bs.head? = some 0 then none else some (ofBigEndian bs)

/-- The length that a mark stands for or announces, and the bytes after it. -/
def length? (mark : Nat) (bs : List UInt8) : Option (Nat × List UInt8) :=
  if mark < 56 then some (mark, bs)
  else if bs.length < mark - 55 then none
  else
    match number? (bs.take (mark - 55)) with
    | none => none
    | some n => if n < 56 then none else some (n, bs.drop (mark - 55))

/-- The bytes of an item behind its mark, and the bytes after it. -/
def payload? (mark : Nat) (bs : List UInt8) : Option (List UInt8 × List UInt8) :=
  match length? mark bs with
  | none => none
  | some (n, bs) => if bs.length < n then none else some (bs.take n, bs.drop n)

/-- A string that stands for itself. -/
def isSmall : List UInt8 → Bool
  | [b] => b < 0x80
  | _ => false

/-- Takes off the first item: whether it is a list, its bytes, and the bytes after it. -/
def split? : List UInt8 → Option (Bool × List UInt8 × List UInt8)
  | [] => none
  | b :: bs =>
    if b.toNat < 0x80 then some (false, [b], bs)
    else if b.toNat < 0xC0 then
      match payload? (b.toNat - 0x80) bs with
      | none => none
      | some (payload, rest) => if isSmall payload then none else some (false, payload, rest)
    else (payload? (b.toNat - 0xC0) bs).map fun (payload, rest) => (true, payload, rest)

/-- All items of the bytes; each of them takes off a byte at least, also of those inside it. -/
def items? : (fuel : Nat) → List UInt8 → Option (List Item)
  | _, [] => some []
  | 0, _ :: _ => none
  | fuel + 1, b :: bs => do
    let (isList, payload, rest) ← split? (b :: bs)
    let item ← if isList then (items? fuel payload).map .list else some (.bytes payload)
    return item :: (← items? fuel rest)

/-- The one item that the bytes are. -/
def decode? (bs : List UInt8) : Option Item :=
  match items? bs.length bs with
  | some [item] => some item
  | _ => none

theorem ofBigEndian_append_singleton (bs : List UInt8) (b : UInt8) :
    ofBigEndian (bs ++ [b]) = 256 * ofBigEndian bs + b.toNat := by
  simp [ofBigEndian]

theorem minimalBytes_zero : minimalBytes 0 = [] := by
  rw [minimalBytes, dif_pos rfl]

theorem minimalBytes_of_ne_zero {n : Nat} (h : n ≠ 0) :
    minimalBytes n = minimalBytes (n / 256) ++ [UInt8.ofNat n] := by
  rw [minimalBytes, dif_neg h]

theorem minimalBytes_ne_nil {n : Nat} (h : n ≠ 0) : minimalBytes n ≠ [] := by
  rw [minimalBytes_of_ne_zero h]
  exact List.append_ne_nil_of_right_ne_nil _ (List.cons_ne_nil _ _)

theorem ofBigEndian_minimalBytes (n : Nat) : ofBigEndian (minimalBytes n) = n := by
  fun_induction minimalBytes n with
  | case1 => rfl
  | case2 n _ _ ih =>
    rw [ofBigEndian_append_singleton, ih, UInt8.toNat_ofNat']
    omega

theorem head_minimalBytes (n : Nat) : (minimalBytes n).head? ≠ some 0 := by
  fun_induction minimalBytes n with
  | case1 => simp
  | case2 n hne _ ih =>
    by_cases hsmall : n / 256 = 0
    · rw [hsmall, minimalBytes_zero, List.nil_append, List.head?_cons]
      intro hzero
      have hmod := congrArg UInt8.toNat (Option.some.inj hzero)
      rw [UInt8.toNat_ofNat'] at hmod
      simp at hmod
      omega
    · obtain ⟨b, bs, hcons⟩ := List.exists_cons_of_ne_nil (minimalBytes_ne_nil hsmall)
      rw [hcons] at ih ⊢
      exact ih

theorem length_minimalBytes_le {n width : Nat} (h : n < 256 ^ width) :
    (minimalBytes n).length ≤ width := by
  induction width generalizing n with
  | zero =>
    obtain rfl : n = 0 := by simpa using h
    rw [minimalBytes_zero]
    exact Nat.le_refl 0
  | succ width ih =>
    by_cases hzero : n = 0
    · rw [hzero, minimalBytes_zero]
      exact Nat.zero_le _
    · have hrest := ih (Nat.div_lt_of_lt_mul (by rwa [Nat.pow_succ'] at h))
      rw [minimalBytes_of_ne_zero hzero, List.length_append, List.length_singleton]
      exact Nat.succ_le_succ hrest

/-- A number is read back. -/
theorem number_minimalBytes (n : Nat) : number? (minimalBytes n) = some n := by
  rw [number?, if_neg (head_minimalBytes n), ofBigEndian_minimalBytes]

/-- Lengths that can be written. -/
def maxLength : Nat := 256 ^ 8

/-- The mark in front of a length is below 64, and the length is read back behind it. -/
theorem header_eq (base : Nat) {length : Nat} (h : length < maxLength) :
    ∃ mark tail, header base length = UInt8.ofNat (base + mark) :: tail ∧ mark < 64 ∧
      ∀ rest, length? mark (tail ++ rest) = some (length, rest) := by
  by_cases hshort : length < 56
  · refine ⟨length, [], by rw [header, if_pos hshort], by omega, fun rest => ?_⟩
    rw [length?, if_pos hshort, List.nil_append]
  · have hle := length_minimalBytes_le h
    have hpos := List.length_pos_iff.mpr (minimalBytes_ne_nil (by omega : length ≠ 0))
    refine ⟨55 + (minimalBytes length).length, minimalBytes length, ?_, by omega, fun rest => ?_⟩
    · rw [header, if_neg hshort, ← Nat.add_assoc]
    · rw [length?, if_neg (by omega), Nat.add_sub_cancel_left, if_neg (by simp),
        List.take_left' rfl, List.drop_left' rfl, number_minimalBytes]
      exact if_neg hshort

theorem header_payload (base : Nat) {payload : List UInt8} (h : payload.length < maxLength) :
    ∃ mark tail, header base payload.length = UInt8.ofNat (base + mark) :: tail ∧ mark < 64 ∧
      ∀ rest, payload? mark (tail ++ (payload ++ rest)) = some (payload, rest) := by
  obtain ⟨mark, tail, hheader, hmark, hlength⟩ := header_eq base h
  refine ⟨mark, tail, hheader, hmark, fun rest => ?_⟩
  rw [payload?, hlength]
  simp

theorem encodeBytes_of_isSmall {bs : List UInt8} (h : isSmall bs = true) :
    ∃ b, bs = [b] ∧ b < 0x80 ∧ encodeBytes bs = [b] := by
  match bs, h with
  | [b], h =>
    have hb : b < 0x80 := by simpa [isSmall] using h
    exact ⟨b, rfl, hb, if_pos hb⟩

theorem encodeBytes_of_not_isSmall {bs : List UInt8} (h : isSmall bs = false) :
    encodeBytes bs = header 0x80 bs.length ++ bs := by
  match bs, h with
  | [], _ => rfl
  | [b], h =>
    have hb : ¬ b < 0x80 := by simpa [isSmall] using h
    exact if_neg hb
  | a :: b :: bs, _ => rfl

theorem toNat_marked {base mark : Nat} (hbase : base ≤ 0xC0) (hmark : mark < 64) :
    (UInt8.ofNat (base + mark)).toNat = base + mark := by
  have hsize : base + mark < UInt8.size := by
    change base + mark < 256
    omega
  exact UInt8.toNat_ofNat_of_lt' hsize

/-- A string is taken off as it was, whatever comes after it. -/
theorem split_encodeBytes {bs : List UInt8} (h : bs.length < maxLength) (rest : List UInt8) :
    split? (encodeBytes bs ++ rest) = some (false, bs, rest) := by
  cases hsmall : isSmall bs with
  | true =>
    obtain ⟨b, rfl, hb, hencode⟩ := encodeBytes_of_isSmall hsmall
    have hlow : b.toNat < 0x80 := UInt8.lt_iff_toNat_lt.mp hb
    rw [hencode, List.singleton_append, split?, if_pos hlow]
  | false =>
    obtain ⟨mark, tail, hheader, hmark, hpayload⟩ := header_payload 0x80 h
    rw [encodeBytes_of_not_isSmall hsmall, hheader, List.append_assoc, List.cons_append, split?,
      toNat_marked (by decide) hmark, if_neg (by omega), if_pos (by omega),
      Nat.add_sub_cancel_left, hpayload]
    simp [hsmall]

/-- The payload of a list is taken off, whatever comes after it. -/
theorem split_encodeList {strings : List (List UInt8)}
    (h : (strings.flatMap encodeBytes).length < maxLength) (rest : List UInt8) :
    split? (encodeList strings ++ rest) = some (true, strings.flatMap encodeBytes, rest) := by
  obtain ⟨mark, tail, hheader, hmark, hpayload⟩ := header_payload 0xC0 h
  rw [encodeList, hheader, List.append_assoc, List.cons_append, split?,
    toNat_marked (by decide) hmark, if_neg (by omega), if_neg (by omega),
    Nat.add_sub_cancel_left, hpayload]
  rfl

theorem header_ne_nil (base length : Nat) : header base length ≠ [] := by
  unfold header
  split <;> exact List.cons_ne_nil _ _

theorem encodeBytes_ne_nil (bs : List UInt8) : encodeBytes bs ≠ [] := by
  cases hsmall : isSmall bs with
  | true =>
    obtain ⟨b, rfl, -, hencode⟩ := encodeBytes_of_isSmall hsmall
    rw [hencode]
    exact List.cons_ne_nil _ _
  | false =>
    rw [encodeBytes_of_not_isSmall hsmall]
    exact List.append_ne_nil_of_left_ne_nil (header_ne_nil _ _) _

theorem length_le_flatMap_encodeBytes (strings : List (List UInt8)) :
    strings.length ≤ (strings.flatMap encodeBytes).length := by
  induction strings with
  | nil => exact Nat.le_refl 0
  | cons bs strings ih =>
    have hpos := List.length_pos_iff.mpr (encodeBytes_ne_nil bs)
    rw [List.flatMap_cons, List.length_append, List.length_cons]
    omega

theorem items_of_split {fuel : Nat} {bs payload rest : List UInt8} {isList : Bool} (hne : bs ≠ [])
    (hsplit : split? bs = some (isList, payload, rest)) :
    items? (fuel + 1) bs = (do
      let item ← if isList then (items? fuel payload).map .list else some (.bytes payload)
      return item :: (← items? fuel rest)) := by
  obtain ⟨b, bs, rfl⟩ := List.exists_cons_of_ne_nil hne
  rw [items?, hsplit]
  rfl

/-- Strings are read one after the other. -/
theorem items_encodeBytes {strings : List (List UInt8)} (h : ∀ bs ∈ strings, bs.length < maxLength)
    {fuel : Nat} (hfuel : strings.length ≤ fuel) :
    items? fuel (strings.flatMap encodeBytes) = some (strings.map .bytes) := by
  induction strings generalizing fuel with
  | nil =>
    cases fuel <;> rfl
  | cons bs strings ih =>
    obtain ⟨fuel, rfl⟩ : ∃ n, fuel = n + 1 := ⟨fuel - 1, by rw [List.length_cons] at hfuel; omega⟩
    have hsplit := split_encodeBytes (h bs List.mem_cons_self) (strings.flatMap encodeBytes)
    have hrest := ih (fun cs hcs => h cs (List.mem_cons_of_mem _ hcs))
      (Nat.le_of_succ_le_succ hfuel)
    rw [List.flatMap_cons,
      items_of_split (List.append_ne_nil_of_left_ne_nil (encodeBytes_ne_nil bs) _) hsplit, hrest]
    rfl

/-- A list of strings is read back, and nothing is left over. -/
theorem decode_encodeList {strings : List (List UInt8)}
    (hstrings : ∀ bs ∈ strings, bs.length < maxLength)
    (hlist : (strings.flatMap encodeBytes).length < maxLength) :
    decode? (encodeList strings) = some (.list (strings.map .bytes)) := by
  have hne : encodeList strings ≠ [] := List.append_ne_nil_of_left_ne_nil (header_ne_nil _ _) _
  have hsplit := split_encodeList hlist []
  rw [List.append_nil] at hsplit
  have hlength : strings.length < (encodeList strings).length := by
    have hheader := List.length_pos_iff.mpr
      (header_ne_nil 0xC0 (strings.flatMap encodeBytes).length)
    have hbody := length_le_flatMap_encodeBytes strings
    rw [encodeList, List.length_append]
    omega
  obtain ⟨fuel, hfuel⟩ : ∃ n, (encodeList strings).length = n + 1 :=
    ⟨(encodeList strings).length - 1, by omega⟩
  have hitems := items_encodeBytes hstrings (by omega : strings.length ≤ fuel)
  have hnil : items? fuel [] = some [] := by cases fuel <;> rfl
  rw [decode?, hfuel, items_of_split hne hsplit, if_pos rfl, hitems, hnil]
  rfl

theorem length_encodeBytes_le {bs : List UInt8} (h : bs.length < 56) :
    (encodeBytes bs).length ≤ 56 := by
  cases hsmall : isSmall bs with
  | true =>
    obtain ⟨b, rfl, -, hencode⟩ := encodeBytes_of_isSmall hsmall
    rw [hencode, List.length_singleton]
    decide
  | false =>
    rw [encodeBytes_of_not_isSmall hsmall, header, if_pos h, List.singleton_append,
      List.length_cons]
    exact h

theorem length_flatMap_encodeBytes_le {strings : List (List UInt8)}
    (h : ∀ bs ∈ strings, bs.length < 56) :
    (strings.flatMap encodeBytes).length ≤ 56 * strings.length := by
  induction strings with
  | nil => exact Nat.le_refl 0
  | cons bs strings ih =>
    have hbs := length_encodeBytes_le (h bs List.mem_cons_self)
    have hrest := ih fun cs hcs => h cs (List.mem_cons_of_mem _ hcs)
    rw [List.flatMap_cons, List.length_append, List.length_cons]
    omega

/-- Lists of a few short strings can be written. -/
theorem decode_encodeList_of_short {strings : List (List UInt8)}
    (hstrings : ∀ bs ∈ strings, bs.length < 56) (hcount : strings.length ≤ 256) :
    decode? (encodeList strings) = some (.list (strings.map .bytes)) := by
  have hmax : 56 * 256 < maxLength := by decide
  have hlist := length_flatMap_encodeBytes_le hstrings
  refine decode_encodeList (fun bs hbs => ?_) (by omega)
  have hbs := hstrings bs hbs
  omega

end Devnet.Rlp
