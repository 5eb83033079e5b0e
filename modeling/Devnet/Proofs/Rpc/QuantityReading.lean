import Devnet.Proofs.Json.Reading
import Devnet.Rpc.Quantity
import Mathlib.Algebra.Group.Nat.Defs
import Mathlib.Data.List.Induction

namespace Devnet

namespace Text

/-- Nothing, or the mark of a hexadecimal number. -/
def OptionalMark (mark : List Char) : Prop := mark = [] ∨ mark = ['0', 'x']

/-- The characters are digits of these values. -/
def SpellsHex (cs : List Char) (ds : List Nat) : Prop := cs.mapM hexValue? = some ds

theorem toNat_le_of_hexValue {c : Char} {d : Nat} (h : hexValue? c = some d) : c.toNat ≤ 127 := by
  unfold hexValue? at h
  split at h
  · rename_i hdigit
    exact Nat.le_trans (Char.le_def.mp hdigit.2) (by decide)
  · split at h
    · rename_i hlower
      exact Nat.le_trans (Char.le_def.mp hlower.2) (by decide)
    · split at h
      · rename_i hupper
        exact Nat.le_trans (Char.le_def.mp hupper.2) (by decide)
      · cases h

/-- What holds of every ASCII character can be tried on each of them. -/
theorem forall_ascii {P : Char → Prop} (h : ∀ n : Fin 128, P (Char.ofNat n.val)) {c : Char}
    (hc : c.toNat < 128) : P c := by
  have hp := h ⟨c.toNat, hc⟩
  rwa [Char.ofNat_toNat] at hp

theorem forall_digit {P : Char → Nat → Prop}
    (h : ∀ n : Fin 128, ∀ d ∈ hexValue? (Char.ofNat n.val), P (Char.ofNat n.val) d) {c : Char}
    {d : Nat} (hc : hexValue? c = some d) : P c d :=
  forall_ascii (P := fun c => ∀ d ∈ hexValue? c, P c d) h
    (Nat.lt_succ_of_le (toNat_le_of_hexValue hc)) d hc

theorem eq_zero_of_hexValue {c : Char} (h : hexValue? c = some 0) : c = '0' := by
  refine forall_digit (P := fun c d => d = 0 → c = '0') ?_ h rfl
  decide

/-- A digit is one byte, which is the character itself. -/
theorem encode_of_hexValue {c : Char} {d : Nat} (h : hexValue? c = some d) :
    ∃ b, String.utf8EncodeChar c = [b] ∧ Char.ofNat b.toNat = c := by
  have hle := toNat_le_of_hexValue h
  refine ⟨UInt8.ofNat c.toNat, ?_, ?_⟩
  · rw [String.utf8EncodeChar]
    exact if_pos hle
  · rw [UInt8.toNat_ofNat', Nat.mod_eq_of_lt (by omega)]
    exact Char.ofNat_toNat c

theorem SpellsHex.cons {c : Char} {cs : List Char} {ds : List Nat} (h : SpellsHex (c :: cs) ds) :
    ∃ e es, hexValue? c = some e ∧ SpellsHex cs es ∧ ds = e :: es := by
  rw [SpellsHex, List.mapM_cons] at h
  cases hc : hexValue? c with
  | none =>
    rw [hc] at h
    cases h
  | some e =>
    cases hcs : cs.mapM hexValue? with
    | none =>
      rw [hc, hcs] at h
      cases h
    | some es =>
      rw [hc, hcs] at h
      cases h
      exact ⟨e, es, rfl, hcs, rfl⟩

theorem SpellsHex.length_eq {cs : List Char} {ds : List Nat} (h : SpellsHex cs ds) :
    ds.length = cs.length := by
  induction cs generalizing ds with
  | nil =>
    cases h
    rfl
  | cons c cs ih =>
    obtain ⟨e, es, -, hcs, rfl⟩ := h.cons
    rw [List.length_cons, List.length_cons, ih hcs]

/-- The text of digits has as many bytes. -/
theorem SpellsHex.length_encoded {cs : List Char} {ds : List Nat} (h : SpellsHex cs ds) :
    (cs.flatMap String.utf8EncodeChar).length = cs.length := by
  induction cs generalizing ds with
  | nil => rfl
  | cons c cs ih =>
    obtain ⟨e, es, hc, hcs, -⟩ := h.cons
    obtain ⟨b, hb, -⟩ := encode_of_hexValue hc
    rw [List.flatMap_cons, hb, List.singleton_append, List.length_cons, List.length_cons, ih hcs]

/-- A first digit other than zero counts as many powers as digits follow it. -/
theorem pow_le_ofHexDigits {d : Nat} (hd : 0 < d) (ds : List Nat) :
    16 ^ ds.length ≤ ofHexDigits (d :: ds) := by
  induction ds using List.reverseRecOn with
  | nil =>
    have hone : ofHexDigits [d] = d := by simp [ofHexDigits]
    rw [hone]
    exact hd
  | append_singleton ds e ih =>
    rw [← List.cons_append, ofHexDigits_append_singleton, List.length_append,
      List.length_singleton, Nat.pow_succ]
    omega

/-- Without a zero in front there are no more digits than the number needs. -/
theorem SpellsHex.length_le {cs : List Char} {ds : List Nat} (h : SpellsHex cs ds)
    (hlead : cs.head? ≠ some '0') {k : Nat} (hlt : ofHexDigits ds < 16 ^ k) : cs.length ≤ k := by
  cases cs with
  | nil => exact Nat.zero_le k
  | cons c cs =>
    obtain ⟨d, ds, hc, hcs, rfl⟩ := h.cons
    have hd : 0 < d := by
      rw [Nat.pos_iff_ne_zero]
      rintro rfl
      exact hlead (congrArg some (eq_zero_of_hexValue hc))
    have hpow := Nat.lt_of_le_of_lt (pow_le_ofHexDigits hd ds) hlt
    rw [List.length_cons, ← hcs.length_eq]
    exact (Nat.pow_lt_pow_iff_right (by decide)).mp hpow

theorem spellsHex_hexPlain (n : Nat) : ∃ ds, SpellsHex (hexPlain n) ds ∧ ofHexDigits ds = n := by
  induction n using Nat.strongRecOn with
  | ind n ih =>
    by_cases hlt : n < 16
    · refine ⟨[n], ?_, by simp [ofHexDigits]⟩
      rw [SpellsHex, hexPlain, Nat.toDigits_of_lt_base hlt]
      simp [hexValue_digitChar hlt]
    · obtain ⟨ds, hdigits, hvalue⟩ := ih (n / 16) (by omega)
      refine ⟨ds ++ [n % 16], ?_, ?_⟩
      · rw [SpellsHex, hexPlain, Nat.toDigits_of_base_le (by decide) (by omega)]
        simp only [SpellsHex, hexPlain] at hdigits
        simp [List.mapM_append, hdigits, hexValue_digitChar (Nat.mod_lt n (by decide))]
      · rw [ofHexDigits_append_singleton, hvalue]
        omega

end Text

namespace Rpc

open Json (Doc)
open Text (OptionalMark SpellsHex)

theorem hexDigits_of_spellsHex {cs : List Char} {ds : List Nat} (h : SpellsHex cs ds)
    (place i : Nat) : hexDigits place i (cs.flatMap String.utf8EncodeChar) = .ok ds := by
  induction cs generalizing ds i with
  | nil =>
    cases h
    rfl
  | cons c cs ih =>
    obtain ⟨e, es, hc, hcs, rfl⟩ := h.cons
    obtain ⟨b, hb, hchar⟩ := Text.encode_of_hexValue hc
    rw [List.flatMap_cons, hb, List.singleton_append, hexDigits]
    simp only [hchar, hc, ih hcs (i + 1)]
    rfl

/-- The digits of a text that begins with a digit are not taken for a mark. -/
theorem bytes_of_spellsHex {cs : List Char} {ds : List Nat} (h : SpellsHex cs ds)
    {rest : List UInt8} : cs.flatMap String.utf8EncodeChar ≠ 0x30 :: 0x78 :: rest := by
  intro hbytes
  cases cs with
  | nil => cases hbytes
  | cons c cs =>
    obtain ⟨d, ds, hc, hcs, -⟩ := h.cons
    obtain ⟨b, hb, -⟩ := Text.encode_of_hexValue hc
    rw [List.flatMap_cons, hb, List.singleton_append] at hbytes
    obtain ⟨-, hbytes⟩ := List.cons.inj hbytes
    cases cs with
    | nil => cases hbytes
    | cons x cs =>
      obtain ⟨e, es, hx, -, -⟩ := hcs.cons
      obtain ⟨b', hb', hchar⟩ := Text.encode_of_hexValue hx
      rw [List.flatMap_cons, hb', List.singleton_append] at hbytes
      obtain ⟨rfl, -⟩ := List.cons.inj hbytes
      subst hchar
      cases hx

/-- The bytes that digits spell, marked or not, are their number. -/
theorem readBytes_of_shows {width : Width} {mark cs : List Char} {ds : List Nat}
    (hmark : OptionalMark mark) (h : SpellsHex cs ds) (hallows : width.allows cs.length = true)
    {d : Doc} (hshows : d.Shows (.string (String.ofList (mark ++ cs)))) :
    readBytes width d = .ok (Text.ofHexDigits ds, (cs.length + 1) / 2) := by
  obtain ⟨l, start, stop, rfl, htext⟩ := Doc.shows_string_iff.mp hshows
  have heven : (cs.length + cs.length) % 2 = 0 := by omega
  obtain rfl | rfl := hmark
  · simp only [readBytes, htext, bind, Except.bind, String.toList_ofList, List.nil_append]
    split
    · rename_i heq
      exact absurd heq (bytes_of_spellsHex h)
    · simp only [h.length_encoded, hallows, hexDigits_of_spellsHex h, h.length_eq, heven, if_true]
      rfl
  · have hbytes : (['0', 'x'] ++ cs).flatMap String.utf8EncodeChar =
        0x30 :: 0x78 :: cs.flatMap String.utf8EncodeChar := rfl
    simp only [readBytes, htext, bind, Except.bind, String.toList_ofList, hbytes,
      h.length_encoded, hallows, hexDigits_of_spellsHex h, h.length_eq, heven, if_true]
    rfl

theorem marked_append (cs : List Char) : ['0', 'x'] ++ cs = '0' :: 'x' :: cs := rfl

theorem readAddress_of_shows (a : Address) {depth : Nat} {d : Doc}
    (h : d.Shows (.string a.text)) : readAddress depth d = .ok a := by
  obtain ⟨ds, hdigits, hvalue⟩ := Text.hexValue_hexFixed 40 a.bits.toNat
  have hlength : a.digits.length = 40 := Text.hexFixed_length ..
  have hbound : a.bits.toNat < Nat.pow 16 40 := a.bits.isLt
  have hspells : SpellsHex a.digits ds := hdigits
  have hallows : (Width.exactly 20).allows a.digits.length = true := by
    rw [hlength]
    rfl
  rw [Address.text, ← marked_append] at h
  rw [readAddress, readFixed, readBytes_of_shows (.inr rfl) hspells hallows h, hvalue,
    Nat.mod_eq_of_lt hbound, hlength]
  simp [Except.map]

/-- A number as it may be written in hexadecimal digits: in either case, with a mark or without, and
with zeros in front as long as 64 digits are not exceeded for them. -/
inductive WritesQuantity : List Char → Nat → Prop where
  | digits {mark cs : List Char} {ds : List Nat} (mark_optional : OptionalMark mark)
      (spelled : SpellsHex cs ds) (nonempty : cs ≠ [])
      (lead : cs.head? = some '0' → cs.length ≤ 64) :
      WritesQuantity (mark ++ cs) (Text.ofHexDigits ds)

/-- Every number of at most 256 bits is read, however it is written. -/
theorem WritesQuantity.readWord256 {s : String} {n : Nat} (h : WritesQuantity s.toList n)
    (hn : n < 2 ^ 256) {depth : Nat} {d : Doc} (hshows : d.Shows (.string s)) :
    Rpc.readWord256 depth d = .ok (BitVec.ofNat 256 n) := by
  rw [← String.ofList_toList (s := s)] at hshows
  generalize s.toList = cs at h hshows
  cases h with
  | @digits mark cs ds hmark hspelled hnonempty hlead =>
    have hpos : 0 < cs.length := List.length_pos_iff.mpr hnonempty
    have hle : cs.length ≤ 64 := by
      by_cases hzero : cs.head? = some '0'
      · exact hlead hzero
      · exact hspelled.length_le hzero hn
    have hbytes := @readBytes_of_shows (.upTo 32) _ _ _ hmark hspelled
      (by simpa [Width.allows] using ⟨hpos, hle⟩) d hshows
    rw [Rpc.readWord256, readNumber, hbytes]
    rfl

theorem writesQuantity_hexPlain (n : Word256) :
    WritesQuantity ('0' :: 'x' :: Text.hexPlain n.toNat) n.toNat := by
  obtain ⟨ds, hdigits, hvalue⟩ := Text.spellsHex_hexPlain n.toNat
  have hbound : n.toNat < 16 ^ 64 := n.isLt
  have hpos : 0 < (Text.hexPlain n.toNat).length := Nat.length_toDigits_pos
  have hle : (Text.hexPlain n.toNat).length ≤ 64 :=
    (Nat.length_toDigits_le_iff (by decide) (by decide)).mpr hbound
  have hwrites := @WritesQuantity.digits ['0', 'x'] _ _ (.inr rfl) hdigits
    (List.length_pos_iff.mp hpos) fun _ => hle
  rwa [hvalue] at hwrites

/-- A number is read back. -/
theorem readWord256_of_shows (n : Word256) {depth : Nat} {d : Doc}
    (h : d.Shows (quantity n.toNat)) : readWord256 depth d = .ok n := by
  have hwrites := writesQuantity_hexPlain n
  rw [← String.toList_ofList (l := '0' :: 'x' :: Text.hexPlain n.toNat)] at hwrites
  rw [hwrites.readWord256 n.isLt h, BitVec.ofNat_toNat]
  rfl

end Rpc

end Devnet
