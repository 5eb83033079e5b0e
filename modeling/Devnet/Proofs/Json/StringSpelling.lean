import Devnet.Json.Printer
import Devnet.Json.StringLiteral

namespace Devnet.Json

/-- The characters after an opening quote, up to and with the closing one, spell the pieces. -/
inductive SpellsPieces : List Char → List Piece → Prop where
  | closed : SpellsPieces ['"'] []
  | plain {c : Char} {cs : List Char} {ps : List Piece} (quote : c ≠ '"') (backslash : c ≠ '\\')
      (printable : 0x20 ≤ c.toNat) (rest : SpellsPieces cs ps) :
      SpellsPieces (c :: cs) (.plain c :: ps)
  | short {c x : Char} {cs : List Char} {ps : List Piece} (escape : shortEscape? c = some x)
      (rest : SpellsPieces cs ps) : SpellsPieces ('\\' :: c :: cs) (.short x :: ps)
  | unit {a b c d : Char} {n : Nat} {cs : List Char} {ps : List Piece}
      (code : unitCode? a b c d = some n) (rest : SpellsPieces cs ps) :
      SpellsPieces ('\\' :: 'u' :: a :: b :: c :: d :: cs) (.unit n :: ps)

theorem scanPieces_plain {c : Char} (quote : c ≠ '"') (backslash : c ≠ '\\')
    (printable : 0x20 ≤ c.toNat) (r : List Char) :
    scanPieces (c :: r) =
      (.plain c :: (scanPieces r).1, (scanPieces r).2.1, (scanPieces r).2.2) := by
  rw [scanPieces.eq_def]
  split <;> simp_all

theorem scanPieces_short {c x : Char} (escape : shortEscape? c = some x) (r : List Char) :
    scanPieces ('\\' :: c :: r) =
      (.short x :: (scanPieces r).1, (scanPieces r).2.1, (scanPieces r).2.2) := by
  have hu : c ≠ 'u' := by
    rintro rfl
    cases escape
  simp [scanPieces, hu, escape]

theorem scanPieces_unit {a b c d : Char} {n : Nat} (code : unitCode? a b c d = some n)
    (r : List Char) :
    scanPieces ('\\' :: 'u' :: a :: b :: c :: d :: r) =
      (.unit n :: (scanPieces r).1, (scanPieces r).2.1, (scanPieces r).2.2) := by
  rw [scanPieces, code]

theorem SpellsPieces.scan {cs : List Char} {ps : List Piece} (h : SpellsPieces cs ps)
    (r : List Char) : scanPieces (cs ++ r) = (ps, .closed, r) := by
  induction h with
  | closed => rfl
  | plain quote backslash printable _ ih =>
    rw [List.cons_append, scanPieces_plain quote backslash printable, ih]
  | short escape _ ih =>
    rw [List.cons_append, List.cons_append, scanPieces_short escape, ih]
  | unit code _ ih =>
    simp only [List.cons_append]
    rw [scanPieces_unit code, ih]

/-- The piece that the printer writes for a character. -/
def pieceOf (c : Char) : Piece :=
  if c ∈ ['"', '\\', '\x08', '\x0c', '\n', '\r', '\t'] then .short c
  else if c.toNat < 0x20 then .unit c.toNat
  else .plain c

/-- Four digits are written for a control character, and they spell its number. -/
theorem hexFixed_four {n : Nat} (h : n < 0x20) :
    ∃ a b c d, Text.hexFixed 4 n = [a, b, c, d] ∧ unitCode? a b c d = some n := by
  obtain ⟨ds, hds, hvalue⟩ := Text.hexValue_hexFixed 4 n
  have hfits : n < Nat.pow 16 4 := Nat.lt_trans h (by decide)
  rw [Nat.mod_eq_of_lt hfits] at hvalue
  have hlength := Text.hexFixed_length 4 n
  match hdigits : Text.hexFixed 4 n, hlength with
  | [a, b, c, d], _ =>
    refine ⟨a, b, c, d, rfl, ?_⟩
    rw [hdigits] at hds
    rw [unitCode?, hds, ← hvalue]
    rfl

theorem SpellsPieces.escaped {cs : List Char} {ps : List Piece} (h : SpellsPieces cs ps)
    (c : Char) : SpellsPieces (Json.escaped c ++ cs) (pieceOf c :: ps) := by
  unfold pieceOf
  by_cases hshort : c ∈ ['"', '\\', '\x08', '\x0c', '\n', '\r', '\t']
  · rw [if_pos hshort]
    simp only [List.mem_cons, List.not_mem_nil, or_false] at hshort
    rcases hshort with rfl | rfl | rfl | rfl | rfl | rfl | rfl <;> exact .short rfl h
  · rw [if_neg hshort]
    simp only [List.mem_cons, List.not_mem_nil, or_false, not_or] at hshort
    obtain ⟨hquote, hbackslash, hb, hf, hn, hr, ht⟩ := hshort
    unfold Json.escaped
    rw [if_neg hquote, if_neg hbackslash, if_neg hb, if_neg hf, if_neg hn, if_neg hr, if_neg ht]
    by_cases hcontrol : c.toNat < 0x20
    · rw [if_pos hcontrol, if_pos hcontrol]
      obtain ⟨x, y, z, w, hdigits, hcode⟩ := hexFixed_four hcontrol
      rw [hdigits]
      exact .unit hcode h
    · rw [if_neg hcontrol, if_neg hcontrol]
      exact .plain hquote hbackslash (by omega) h

theorem decode_pieceOf (place : Nat) (c : Char) (ps : List Piece) (e : Ending) :
    StringLiteral.decode place (pieceOf c :: ps) e =
      (StringLiteral.decode (place + (pieceOf c).width) ps e).map (c :: ·) := by
  unfold pieceOf
  split
  · rfl
  · split
    · rename_i hcontrol
      have htrailing : StringLiteral.isTrailing c.toNat = false := by
        simp [StringLiteral.isTrailing]; omega
      have hleading : StringLiteral.isLeading c.toNat = false := by
        simp [StringLiteral.isLeading]; omega
      rw [StringLiteral.decode.eq_def]
      simp [htrailing, hleading, Piece.width]
    · rfl

theorem decode_map_pieceOf (place : Nat) (cs : List Char) :
    StringLiteral.decode place (cs.map pieceOf) .closed = .ok cs := by
  induction cs generalizing place with
  | nil => rfl
  | cons c cs ih =>
    rw [List.map_cons, decode_pieceOf, ih]
    rfl

theorem spellsPieces_printed (cs : List Char) :
    SpellsPieces (cs.flatMap Json.escaped ++ ['"']) (cs.map pieceOf) := by
  induction cs with
  | nil => exact .closed
  | cons c cs ih =>
    rw [List.flatMap_cons, List.append_assoc, List.map_cons]
    exact ih.escaped c

/-- The characters, quotes included, spell the string. -/
def SpellsString (cs : List Char) (s : String) : Prop :=
  ∃ body ps, cs = '"' :: body ∧ SpellsPieces body ps ∧
    ∀ place, StringLiteral.decode place ps .closed = .ok s.toList

theorem spellsString_stringChars (s : String) : SpellsString (stringChars s) s :=
  ⟨_, _, rfl, spellsPieces_printed s.toList, fun place => decode_map_pieceOf place s.toList⟩

/-- The scanner finds every spelling of a string, up to its end. -/
theorem SpellsPieces.scanLiteral {cs : List Char} {ps : List Piece} (h : SpellsPieces cs ps)
    (place : Nat) (r : List Char) :
    ∃ after, StringLiteral.scan ⟨place, cs ++ r⟩ = (⟨place, ps, .closed⟩, some ⟨after, r⟩) := by
  unfold StringLiteral.scan
  simp only [h.scan r]
  exact ⟨_, rfl⟩

/-- A string in quotes as it is, without escapes. -/
def inQuotes (s : String) : List Char := '"' :: (s.toList ++ ['"'])

/-- Characters that stand for themselves between quotes. -/
def Plain (cs : List Char) : Prop := ∀ c ∈ cs, c ≠ '"' ∧ c ≠ '\\' ∧ 0x20 ≤ c.toNat

instance (cs : List Char) : Decidable (Plain cs) := List.decidableBAll _ cs

theorem Plain.spellsPieces {cs : List Char} (h : Plain cs) :
    SpellsPieces (cs ++ ['"']) (cs.map .plain) := by
  induction cs with
  | nil => exact .closed
  | cons c cs ih =>
    obtain ⟨⟨hquote, hbackslash, hprintable⟩, hcs⟩ := List.forall_mem_cons.mp h
    exact .plain hquote hbackslash hprintable (ih hcs)

theorem decode_plain (cs : List Char) (place : Nat) :
    StringLiteral.decode place (cs.map .plain) .closed = .ok cs := by
  induction cs generalizing place with
  | nil => rfl
  | cons c cs ih =>
    rw [List.map_cons, StringLiteral.decode, ih]
    rfl

theorem Plain.spellsString {s : String} (h : Plain s.toList) : SpellsString (inQuotes s) s :=
  ⟨_, _, rfl, h.spellsPieces, decode_plain s.toList⟩

end Devnet.Json
