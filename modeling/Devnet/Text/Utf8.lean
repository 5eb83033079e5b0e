namespace Devnet.Text

/-- Reads `n` continuation bytes onto the bits `acc`, the first of them between `low` and `high`. -/
def continuation : (n low high acc : Nat) → List UInt8 → Option Nat × List UInt8
  | 0, _, _, acc, bs => (some acc, bs)
  | _ + 1, _, _, _, [] => (none, [])
  | n + 1, low, high, acc, b :: bs =>
    if low ≤ b.toNat ∧ b.toNat ≤ high then continuation n 0x80 0xBF (acc * 64 + b.toNat % 64) bs
    else (none, b :: bs)

/-- What a lead byte announces: continuation bytes, the limits of the first of them, own bits. -/
def lead? (b : Nat) : Option (Nat × Nat × Nat × Nat) :=
  if b < 0x80 then some (0, 0x80, 0xBF, b)
  else if b < 0xC2 then none
  else if b < 0xE0 then some (1, 0x80, 0xBF, b % 32)
  else if b = 0xE0 then some (2, 0xA0, 0xBF, 0)
  else if b = 0xED then some (2, 0x80, 0x9F, 0x0D)
  else if b < 0xF0 then some (2, 0x80, 0xBF, b % 16)
  else if b = 0xF0 then some (3, 0x90, 0xBF, 0)
  else if b < 0xF4 then some (3, 0x80, 0xBF, b % 8)
  else if b = 0xF4 then some (3, 0x80, 0x8F, 4)
  else none

/-- The character that `b` starts, if it starts one, and the bytes after it or after the longest
start of a character. -/
def firstChar (b : UInt8) (bs : List UInt8) : Option Char × List UInt8 :=
  match lead? b.toNat with
  | none => (none, bs)
  | some (n, low, high, bits) =>
    let (code, rest) := continuation n low high bits bs
    (code.map Char.ofNat, rest)

theorem continuation_length_le (n low high acc : Nat) (bs : List UInt8) :
    (continuation n low high acc bs).2.length ≤ bs.length := by
  induction n generalizing low high acc bs with
  | zero => simp [continuation]
  | succ n ih =>
    cases bs with
    | nil => simp [continuation]
    | cons b bs =>
      unfold continuation
      split
      · exact Nat.le_succ_of_le (ih ..)
      · exact Nat.le_refl _

theorem firstChar_length_le (b : UInt8) (bs : List UInt8) :
    (firstChar b bs).2.length ≤ bs.length := by
  unfold firstChar
  split
  · exact Nat.le_refl _
  · exact continuation_length_le ..

/-- The characters of the bytes, `none` standing for a stretch that is no character. -/
def decodeEach : List UInt8 → List (Option Char)
  | [] => []
  | b :: bs =>
    have := firstChar_length_le b bs
    (firstChar b bs).1 :: decodeEach (firstChar b bs).2
termination_by bs => bs.length

def decodeUtf8? (bytes : List UInt8) : Option String :=
  ((decodeEach bytes).mapM id).map String.ofList

/-- The text of the bytes with U+FFFD for every stretch that is no character. -/
def decodeUtf8Lossy (bytes : List UInt8) : String :=
  String.ofList ((decodeEach bytes).map (·.getD '\uFFFD'))

def encodeUtf8 (s : String) : List UInt8 := s.toList.flatMap String.utf8EncodeChar

end Devnet.Text
