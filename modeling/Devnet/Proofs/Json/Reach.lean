import Devnet.Proofs.Json.Continuation
import Devnet.Proofs.Rpc.QuantityReading

namespace Devnet.Json

theorem byteLength_cons (c : Char) (cs : List Char) :
    byteLength (c :: cs) = c.utf8Size + byteLength cs := by
  simp [byteLength]

theorem byteLength_append (cs ds : List Char) :
    byteLength (cs ++ ds) = byteLength cs + byteLength ds := by
  simp [byteLength]

/-- The second place is further on in the same text. -/
def Cursor.Reaches (c c' : Cursor) : Prop :=
  ∃ read, c.rest = read ++ c'.rest ∧ c'.offset = c.offset + byteLength read

namespace Cursor.Reaches

theorem refl (c : Cursor) : c.Reaches c := ⟨[], rfl, rfl⟩

theorem trans {a b c : Cursor} (hab : a.Reaches b) (hbc : b.Reaches c) : a.Reaches c := by
  obtain ⟨first, hfirst, hb⟩ := hab
  obtain ⟨second, hsecond, hc⟩ := hbc
  refine ⟨first ++ second, ?_, ?_⟩
  · rw [hfirst, hsecond, List.append_assoc]
  · rw [hc, hb, byteLength_append, Nat.add_assoc]

/-- One character of one byte further on. -/
theorem step {x : Char} (hx : x.utf8Size = 1) (i : Nat) (cs : List Char) :
    Cursor.Reaches ⟨i, x :: cs⟩ ⟨i + 1, cs⟩ :=
  ⟨[x], rfl, by rw [byteLength_cons, hx]; rfl⟩

end Cursor.Reaches

theorem utf8Size_of_isSpace {c : Char} (h : isSpace c = true) : c.utf8Size = 1 := by
  simp only [isSpace, Bool.or_eq_true, decide_eq_true_eq] at h
  rcases h with ((rfl | rfl) | rfl) | rfl <;> rfl

theorem Blank.byteLength_eq {b : List Char} (h : Blank b) : byteLength b = b.length := by
  induction b with
  | nil => rfl
  | cons c b ih =>
    obtain ⟨hc, hb⟩ := List.forall_mem_cons.mp h
    rw [byteLength_cons, utf8Size_of_isSpace hc, ih hb, List.length_cons, Nat.add_comm]

theorem Separates.byteLength_eq {first : Bool} {sep : List Char} (h : Separates first sep) :
    byteLength sep = sep.length := by
  cases h with
  | first blank => exact blank.byteLength_eq
  | next before after =>
    have hcomma : ','.utf8Size = 1 := rfl
    rw [byteLength_append, byteLength_cons, hcomma, before.byteLength_eq, after.byteLength_eq,
      List.length_append, List.length_cons]
    omega

theorem Cursor.reaches_skipSpace (c : Cursor) : c.Reaches c.skipSpace := by
  obtain ⟨i, cs⟩ := c
  induction cs generalizing i with
  | nil =>
    rw [skipSpace]
    exact .refl _
  | cons x cs ih =>
    rw [skipSpace]
    split
    · rename_i hx
      exact (Reaches.step (utf8Size_of_isSpace hx) i cs).trans (ih (i + 1))
    · exact .refl _

theorem Cursor.reaches_nextToken {x : Char} (hx : x.utf8Size = 1) (i : Nat) (cs : List Char) :
    Cursor.Reaches ⟨i, x :: cs⟩ (Cursor.skipSpace ⟨i + 1, cs⟩) :=
  (Reaches.step hx i cs).trans (reaches_skipSpace _)

theorem utf8Size_of_hexValue {c : Char} {d : Nat} (h : Text.hexValue? c = some d) :
    c.utf8Size = 1 :=
  Char.utf8Size_eq_one_iff.mpr (Text.toNat_le_of_hexValue h)

theorem byteLength_of_spellsHex {cs : List Char} {ds : List Nat} (h : Text.SpellsHex cs ds) :
    byteLength cs = cs.length := by
  induction cs generalizing ds with
  | nil => rfl
  | cons c cs ih =>
    obtain ⟨d, ds, hc, hcs, -⟩ := h.cons
    rw [byteLength_cons, utf8Size_of_hexValue hc, ih hcs, List.length_cons, Nat.add_comm]

/-- A closed literal ends before its closing quote. -/
theorem SpellsPieces.last_eq {cs : List Char} {ps : List Piece} (h : SpellsPieces cs ps)
    (start : Nat) : StringLiteral.last ⟨start, ps, .closed⟩ + 1 = start + byteLength cs := by
  induction h generalizing start with
  | closed => rfl
  | @plain c cs ps _ _ _ _ ih =>
    rw [byteLength_cons, ← Nat.add_assoc]
    exact ih (start + c.utf8Size)
  | @short c x cs ps escape _ ih =>
    have hc : c.utf8Size = 1 := by
      unfold shortEscape? at escape
      split at escape <;> first | rfl | cases escape
    have hbackslash : '\\'.utf8Size = 1 := rfl
    rw [byteLength_cons, byteLength_cons, hc, hbackslash, ← Nat.add_assoc, ← Nat.add_assoc]
    exact ih (start + 2)
  | @unit a b c d n cs ps code _ ih =>
    obtain ⟨ds, hds, -⟩ := Option.bind_eq_some_iff.mp code
    have hdigits : byteLength [a, b, c, d] = 4 := byteLength_of_spellsHex hds
    have hescape : byteLength ['\\', 'u'] = 2 := rfl
    have hsplit : '\\' :: 'u' :: a :: b :: c :: d :: cs = ['\\', 'u'] ++ ([a, b, c, d] ++ cs) := rfl
    rw [hsplit, byteLength_append, byteLength_append, hescape, hdigits, ← Nat.add_assoc,
      ← Nat.add_assoc]
    exact ih (start + 6)

theorem SpellsPieces.scan_at {cs : List Char} {ps : List Piece} (h : SpellsPieces cs ps)
    (place : Nat) (r : List Char) :
    StringLiteral.scan ⟨place, cs ++ r⟩ =
      (⟨place, ps, .closed⟩, some ⟨place + byteLength cs, r⟩) := by
  rw [← h.last_eq place]
  unfold StringLiteral.scan
  simp only [h.scan r]

theorem StringLiteral.scan_reaches {c c' : Cursor} {l : StringLiteral}
    (h : scan c = (l, some c')) : c.Reaches c' ∧ l.last + 1 = c'.offset := by
  obtain ⟨i, cs⟩ := c
  rcases hscan : scanPieces cs with ⟨ps, e, r⟩
  simp only [scan, hscan] at h
  cases e with
  | closed =>
    cases h
    obtain ⟨body, rfl, hbody⟩ := spellsPieces_of_scan hscan
    exact ⟨⟨body, rfl, hbody.last_eq i⟩, rfl⟩
  | cut | control | badShort | badUnit => cases h

/-- A part of a number is read on in the same text. -/
def Advances {α : Type} (scan : Cursor → Except Break (α × Cursor)) : Prop :=
  ∀ c a c', scan c = .ok (a, c') → c.Reaches c'

theorem utf8Size_of_digit {c : Char} {d : Nat} (h : digit? c = some d) : c.utf8Size = 1 := by
  unfold digit? at h
  split at h
  · rename_i hdigit
    exact Char.utf8Size_eq_one_iff.mpr (Nat.le_trans (Char.le_def.mp hdigit.2) (by decide))
  · cases h

theorem scanDigits_reaches {cs r : List Char} {ds : List Nat} (h : scanDigits cs = (ds, r))
    (i : Nat) : Cursor.Reaches ⟨i, cs⟩ ⟨i + ds.length, r⟩ := by
  induction cs generalizing ds i with
  | nil =>
    cases h
    exact .refl _
  | cons c cs ih =>
    rw [scanDigits] at h
    cases hc : digit? c with
    | none =>
      simp only [hc] at h
      cases h
      exact .refl _
    | some d =>
      rcases hscan : scanDigits cs with ⟨es, s⟩
      simp only [hc, hscan] at h
      cases h
      have hrest := ih hscan (i + 1)
      rw [Nat.add_assoc, Nat.add_comm 1] at hrest
      exact (Cursor.Reaches.step (utf8Size_of_digit hc) i cs).trans hrest

theorem scanSomeDigits_advances (extra : Nat) : Advances (scanSomeDigits extra) := by
  rintro ⟨i, cs⟩ ds c' h
  rcases hscan : scanDigits cs with ⟨es, s⟩
  simp only [scanSomeDigits, hscan] at h
  cases es with
  | nil => cases s <;> cases h
  | cons e es =>
    cases h
    exact scanDigits_reaches hscan i

theorem scanWhole_advances : Advances scanWhole := by
  rintro ⟨i, cs⟩ ds c' h
  rw [scanWhole] at h
  split at h
  · rename_i r hcs
    obtain rfl : cs = '0' :: r := hcs
    split at h
    · cases h
      exact .step rfl i r
    · cases h
  · exact scanSomeDigits_advances 1 _ _ _ h

theorem scanFraction_advances : Advances scanFraction := by
  rintro ⟨i, cs⟩ ds c' h
  rw [scanFraction] at h
  split at h
  · rename_i r hcs
    obtain rfl : cs = '.' :: r := hcs
    obtain ⟨⟨es, a⟩, hes, h⟩ := map_eq_ok_iff.mp h
    cases h
    exact (Cursor.Reaches.step rfl i r).trans (scanSomeDigits_advances 1 _ _ _ hes)
  · cases h
    exact .refl _

theorem scanSign_reaches (c : Cursor) : c.Reaches (scanSign c).2 := by
  obtain ⟨i, cs⟩ := c
  unfold scanSign
  split
  · rename_i r hcs
    obtain rfl : cs = '+' :: r := hcs
    exact .step rfl i r
  · rename_i r hcs
    obtain rfl : cs = '-' :: r := hcs
    exact .step rfl i r
  · exact .refl _

theorem scanExponent_advances : Advances scanExponent := by
  rintro ⟨i, cs⟩ e c' h
  cases cs with
  | nil =>
    cases h
    exact .refl _
  | cons x r =>
    by_cases hx : x = 'e' ∨ x = 'E'
    · rw [scanExponent_mark hx] at h
      obtain ⟨⟨ds, a⟩, hds, h⟩ := map_eq_ok_iff.mp h
      cases h
      have hsize : x.utf8Size = 1 := by rcases hx with rfl | rfl <;> rfl
      exact ((Cursor.Reaches.step hsize i r).trans (scanSign_reaches _)).trans
        (scanSomeDigits_advances 1 _ _ _ hds)
    · simp only [scanExponent, if_neg hx] at h
      cases h
      exact .refl _

theorem scanNumber_advances (negative : Bool) : Advances (scanNumber negative) := by
  intro c l c' h
  rw [scanNumber] at h
  obtain ⟨⟨whole, c₁⟩, hwhole, h⟩ := bind_eq_ok_iff.mp h
  obtain ⟨⟨fraction, c₂⟩, hfraction, h⟩ := bind_eq_ok_iff.mp h
  obtain ⟨⟨exponent, c₃⟩, hexponent, h⟩ := bind_eq_ok_iff.mp h
  cases h
  exact ((scanWhole_advances _ _ _ hwhole).trans (scanFraction_advances _ _ _ hfraction)).trans
    (scanExponent_advances _ _ _ hexponent)

theorem scanWord_reaches {word : List Char} {c c' : Cursor} (h : scanWord word c = .ok c') :
    c.rest = word ++ c'.rest ∧ c'.offset = c.offset + word.length := by
  induction word generalizing c with
  | nil =>
    cases h
    exact ⟨rfl, rfl⟩
  | cons e es ih =>
    obtain ⟨i, cs⟩ := c
    cases cs with
    | nil => cases h
    | cons x cs =>
      rw [scanWord] at h
      split at h
      · rename_i hx
        subst hx
        obtain ⟨rfl, hoffset⟩ := ih h
        refine ⟨rfl, ?_⟩
        rw [hoffset, List.length_cons]
        exact Nat.add_right_comm i 1 es.length
      · cases h

end Devnet.Json
