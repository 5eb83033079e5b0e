import Devnet.Json.Value

namespace Devnet.Json

/-- A place in a text: the bytes before it and the characters after it. -/
structure Cursor where
  offset : Nat
  rest : List Char
  deriving DecidableEq

def byteLength (cs : List Char) : Nat := (String.ofList cs).utf8ByteSize

inductive Piece where
  | plain (c : Char)
  /-- A character written as a backslash and a letter. -/
  | short (c : Char)
  /-- A 16-bit unit written by number. -/
  | unit (code : Nat)
  deriving DecidableEq

def Piece.width : Piece → Nat
  | plain c => c.utf8Size
  | short _ => 2
  | unit _ => 6

inductive Ending where
  | closed
  /-- The text ends, after `extra` bytes that belong to no piece. -/
  | cut (extra : Nat)
  | control
  /-- At a backslash before a character that it cannot stand before. -/
  | badShort
  /-- At an escape by number without four digits. -/
  | badUnit
  deriving DecidableEq

/-- The pieces between the quotes, from the byte at `start` on. -/
structure StringLiteral where
  start : Nat
  pieces : List Piece
  ending : Ending
  deriving DecidableEq

/-- The character that a backslash and `c` stand for. -/
def shortEscape? (c : Char) : Option Char :=
  match c with
  | '"' => some '"'
  | '\\' => some '\\'
  | '/' => some '/'
  | 'b' => some '\x08'
  | 'f' => some '\x0c'
  | 'n' => some '\n'
  | 'r' => some '\r'
  | 't' => some '\t'
  | _ => none

def unitCode? (a b c d : Char) : Option Nat := do
  let ds ← [a, b, c, d].mapM Text.hexValue?
  return Text.ofHexDigits ds

/-- How a string ends whose escape by number is followed by `cs`. -/
def brokenUnit (cs : List Char) : Ending :=
  if byteLength cs < 4 then .cut (byteLength cs + 2) else .badUnit

/-- Splits the characters after an opening quote into pieces; what follows the closing quote is
left over. -/
def scanPieces : List Char → List Piece × Ending × List Char
  | [] => ([], .cut 0, [])
  | '"' :: r => ([], .closed, r)
  | '\\' :: [] => ([], .cut 1, [])
  | '\\' :: 'u' :: a :: b :: c :: d :: r =>
    match unitCode? a b c d with
    | some n => let (ps, e, s) := scanPieces r; (.unit n :: ps, e, s)
    | none => ([], .badUnit, [])
  | '\\' :: 'u' :: r => ([], brokenUnit r, [])
  | '\\' :: c :: r =>
    match shortEscape? c with
    | some x => let (ps, e, s) := scanPieces r; (.short x :: ps, e, s)
    | none => ([], .badShort, [])
  | c :: r =>
    if c.toNat < 0x20 then ([], .control, [])
    else let (ps, e, s) := scanPieces r; (.plain c :: ps, e, s)

namespace StringLiteral

def last (l : StringLiteral) : Nat := l.pieces.foldl (fun place p => place + p.width) l.start

/-- The literal whose opening quote stands before the cursor, and the place after it. -/
def scan (c : Cursor) : StringLiteral × Option Cursor :=
  let (pieces, ending, rest) := scanPieces c.rest
  let l : StringLiteral := ⟨c.offset, pieces, ending⟩
  match ending with
  | .closed => (l, some ⟨l.last + 1, rest⟩)
  | _ => (l, none)

/-- What is wrong with the end of a literal whose last piece ends at `at`. -/
def endFault (place : Nat) : Ending → Option Complaint
  | .closed => none
  | .cut extra => some (.fault .endInString (place + extra))
  | .control => some (.fault .controlCharacter (place + 1))
  | .badShort => some (.fault .badEscape (place + 2))
  | .badUnit => some (.fault .badEscape (place + 6))

def isLeading (n : Nat) : Bool := 0xD800 ≤ n && n < 0xDC00

def isTrailing (n : Nat) : Bool := 0xDC00 ≤ n && n < 0xE000

/-- The character of a pair of units. -/
def pair (high low : Nat) : Char := Char.ofNat (0x10000 + (high - 0xD800) * 0x400 + (low - 0xDC00))

/-- What is wrong after a leading unit that ends at `place`, when no unit follows. -/
def unpaired (place : Nat) : List Piece → Ending → Complaint
  | .short _ :: _, _ => .fault .cutEscape (place + 2)
  | _ :: _, _ => .fault .cutEscape (place + 1)
  | [], .cut extra => .fault .endInString (place + extra)
  | [], .badUnit => .fault .badEscape (place + 6)
  | [], .badShort => .fault .cutEscape (place + 2)
  | [], _ => .fault .cutEscape (place + 1)

/-- The text that pieces stand for, the first of them at the byte `place`. -/
def decode : (place : Nat) → List Piece → Ending → Except Complaint (List Char)
  | place, [], e =>
    match endFault place e with
    | none => .ok []
    | some c => .error c
  | place, .plain c :: ps, e => (decode (place + c.utf8Size) ps e).map (c :: ·)
  | place, .short c :: ps, e => (decode (place + 2) ps e).map (c :: ·)
  | place, .unit n :: ps, e =>
    if isTrailing n then .error (.fault .loneSurrogate (place + 6))
    else if isLeading n then
      match ps with
      | .unit m :: qs =>
        if isTrailing m then (decode (place + 12) qs e).map (pair n m :: ·)
        else .error (.fault .loneSurrogate (place + 12))
      | _ => .error (unpaired (place + 6) ps e)
    else (decode (place + 6) ps e).map (Char.ofNat n :: ·)

/-- The text that the literal stands for. -/
def text (l : StringLiteral) : Except Complaint String :=
  (decode l.start l.pieces l.ending).map String.ofList

/-- Passing over a literal asks only that it ends; here a control character is not read. -/
def skip (l : StringLiteral) : Except Complaint Unit :=
  match l.ending with
  | .control => .error (.fault .controlCharacter l.last)
  | e =>
    match endFault l.last e with
    | none => .ok ()
    | some c => .error c

end StringLiteral

end Devnet.Json
