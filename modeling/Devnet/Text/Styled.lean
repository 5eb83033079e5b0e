import Devnet.Text.Utf8

namespace Devnet.Text

/-- The control character that starts a command. -/
def escapeChar : Char := '\x1B'

def bold (s : String) : String := "\x1B[1m" ++ s ++ "\x1B[0m"

def heading (s : String) : String := "\x1B[1m\x1B[4m" ++ s ++ "\x1B[0m"

/-- Where a character stands. -/
inductive TerminalPlace where
  | plain
  /-- Behind the character that starts a command. -/
  | escape
  /-- In a command without a bracket that has more than one character. -/
  | marks
  /-- In a command in a square bracket. -/
  | bracket
  /-- At the start of a command for a device. -/
  | device
  /-- In the numbers of a command for a device. -/
  | deviceNumbers
  /-- In the marks behind those numbers. -/
  | deviceMarks
  /-- In a text for a device or for another program. -/
  | message
  /-- In a text for the operating system. -/
  | system
  deriving DecidableEq

def charIn (low high : Nat) (c : Char) : Bool := low ≤ c.toNat && c.toNat ≤ high

/-- Whether the bytes of a character hold the control byte that ends a message. -/
def endsMessage (c : Char) : Bool := (encodeUtf8 (String.singleton c)).contains 0x9C

/-- Where the next character stands; nothing if the character changes nothing. -/
def TerminalPlace.next? (p : TerminalPlace) (c : Char) : Option TerminalPlace :=
  if c = escapeChar then some .escape
  else if c = '\x18' ∨ c = '\x1A' then some .plain
  else match p with
    | .plain => if charIn 0x80 0x10FFFF c then some .plain else none
    | .escape =>
      if charIn 0x20 0x2F c then some .marks
      else if c = '[' then some .bracket
      else if c = ']' then some .system
      else if c = 'P' then some .device
      else if c = 'X' ∨ c = '^' ∨ c = '_' then some .message
      else if charIn 0x30 0x7E c then some .plain
      else none
    | .marks => if charIn 0x30 0x7E c then some .plain else none
    | .bracket => if charIn 0x40 0x7E c then some .plain else none
    | .device =>
      if charIn 0x20 0x2F c then some .deviceMarks
      else if charIn 0x30 0x3F c then some .deviceNumbers
      else if charIn 0x40 0x7E c then some .message
      else none
    | .deviceNumbers =>
      if charIn 0x20 0x2F c then some .deviceMarks
      else if charIn 0x3C 0x7E c then some .message
      else none
    | .deviceMarks => if charIn 0x30 0x7E c then some .message else none
    | .message => if endsMessage c then some .plain else none
    | .system => if c = '\x07' then some .plain else none

/-- Whether a character that stands at a place is part of the text that is left. The blanks among
the controls are, unless they are inside of a message. -/
def TerminalPlace.keeps (p : TerminalPlace) (c : Char) : Bool :=
  match p with
  | .plain => charIn 0x20 0x7E c || charIn 0x80 0x10FFFF c || isControlBlank c
  | .escape | .marks | .bracket => isControlBlank c
  | _ => false
where
  isControlBlank (c : Char) : Bool := c = '\t' || c = '\n' || c = '\x0C' || c = '\r'

/-- What is left of the characters, the first of which stands at `p`. What follows a character that
is left is read as if it stood outside of commands. -/
def plainFrom (p : TerminalPlace) (afterKept : Bool) : List Char → List Char
  | [] => []
  | c :: cs =>
    let here := if afterKept then .plain else p
    let rest := plainFrom ((here.next? c).getD p) (here.keeps c) cs
    if here.keeps c then c :: rest else rest

/-- The text without commands and without control characters that are no blanks. -/
def withoutCommands (s : String) : String := String.ofList (plainFrom .plain false s.toList)

end Devnet.Text
