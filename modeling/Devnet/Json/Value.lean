import Devnet.Decimal.Shortest
import Devnet.Text.Quoted

namespace Devnet

/-- A number as it is understood: exactly where it is whole and fits 64 bits, else as binary64. -/
inductive Number where
  | natural (n : UInt64)
  /-- `-n`, with `n` from 1 to `2 ^ 63`. -/
  | negative (n : Nat)
  /-- The bits of a binary64 number. -/
  | real (bits : UInt64)
  deriving DecidableEq

inductive Json where
  | null
  | bool (b : Bool)
  | number (n : Number)
  | string (s : String)
  | array (items : List Json)
  | object (members : List (String × Json))

namespace Json

def natural (n : UInt64) : Json := .number (.natural n)

def member? (name : String) : Json → Option Json
  | .object members => members.lookup name
  | _ => none

end Json

end Devnet

namespace Devnet.Json

inductive Fault where
  | endInValue
  | endInArray
  | endInObject
  | endInString
  | valueExpected
  | wordExpected
  | badNumber
  | numberOutOfRange
  | badEscape
  | cutEscape
  | loneSurrogate
  | controlCharacter
  | keyExpected
  | colonExpected
  | commaOrBracketExpected
  | commaOrBraceExpected
  | trailingComma
  | trailingCharacters
  | tooDeep
  deriving DecidableEq

def Fault.message : Fault → String
  | endInValue => "EOF while parsing a value"
  | endInArray => "EOF while parsing a list"
  | endInObject => "EOF while parsing an object"
  | endInString => "EOF while parsing a string"
  | valueExpected => "expected value"
  | wordExpected => "expected ident"
  | badNumber => "invalid number"
  | numberOutOfRange => "number out of range"
  | badEscape => "invalid escape"
  | cutEscape => "unexpected end of hex escape"
  | loneSurrogate => "lone leading surrogate in hex escape"
  | controlCharacter => "control character (\\u0000-\\u001F) found while parsing a string"
  | keyExpected => "key must be a string"
  | colonExpected => "expected `:`"
  | commaOrBracketExpected => "expected `,` or `]`"
  | commaOrBraceExpected => "expected `,` or `\x7d`"
  | trailingComma => "trailing comma"
  | trailingCharacters => "trailing characters"
  | tooDeep => "recursion limit exceeded"

inductive Found where
  | null
  | bool (b : Bool)
  | number (n : Number)
  | string (s : String)
  | array
  | object
  deriving DecidableEq

def found : Json → Found
  | .null => .null
  | .bool b => .bool b
  | .number n => .number n
  | .string s => .string s
  | .array _ => .array
  | .object _ => .object

/-- Numbers are shown without an exponent from `1e-5` up to below `1e16`. -/
def numberLayout : Decimal.Layout := ⟨-5, 15⟩

def Found.text : Found → String
  | null => "null"
  | bool b => s!"boolean `{b}`"
  | number (.natural n) => s!"integer `{n.toNat}`"
  | number (.negative n) => s!"integer `-{n}`"
  | number (.real bits) => s!"floating point `{Decimal.text numberLayout bits}`"
  | string s => s!"string {Text.quoted s}"
  | array => "sequence"
  | object => "map"

inductive Cause where
  | fault (f : Fault)
  | wrongType (found : Found) (expected : String)
  | wrongValue (found : Found) (expected : String)
  | wrongLength (length : Nat) (expected : String)
  | unknownVariant (name : String) (variants : List String)
  | missingField (name : String)
  | duplicateField (name : String)
  | unknownField (name : String) (fields : List String)
  /-- In words that belong to the value that is wanted. -/
  | other (words : String)
  deriving DecidableEq

/-- Names in backticks, two of them joined by a word and more introduced by one. -/
def alternatives (names : List String) : String :=
  match names.map fun n => "`" ++ n ++ "`" with
  | [a] => a
  | [a, b] => a ++ " or " ++ b
  | quoted => "one of " ++ ", ".intercalate quoted

def Cause.message : Cause → String
  | fault f => f.message
  | wrongType found expected => s!"invalid type: {found.text}, expected {expected}"
  | wrongValue found expected => s!"invalid value: {found.text}, expected {expected}"
  | wrongLength length expected => s!"invalid length {length}, expected {expected}"
  | unknownVariant name variants =>
    s!"unknown variant `{name}`, expected {alternatives variants}"
  | missingField name => s!"missing field `{name}`"
  | duplicateField name => s!"duplicate field `{name}`"
  | unknownField name fields => s!"unknown field `{name}`, expected {alternatives fields}"
  | other words => words

/-- A cause, and how many bytes had been read; a cause found in a value that was read whole has no
place of its own. -/
structure Complaint where
  cause : Cause
  place : Option Nat
  deriving DecidableEq

namespace Complaint

def fault (f : Fault) (place : Nat) : Complaint := ⟨.fault f, some place⟩

def placedAt (place : Nat) (c : Complaint) : Complaint :=
  ⟨c.cause, some (c.place.getD place)⟩

end Complaint

/-- The line, counted from one, that the first `place` bytes end in, and their bytes in it. -/
def lineAndColumn (text : List Char) (place : Nat) : Nat × Nat :=
  go 1 0 place text
where
  go (line column : Nat) : (left : Nat) → List Char → Nat × Nat
    | 0, _ => (line, column)
    | left + 1, [] => (line, column + (left + 1))
    | left + 1, c :: cs =>
      if c = '\n' then go (line + 1) 0 left cs
      else if left + 1 < c.utf8Size then (line, column + (left + 1))
      else go line (column + c.utf8Size) (left + 1 - c.utf8Size) cs

def Complaint.message (text : String) (c : Complaint) : String :=
  match c.place with
  | none => c.cause.message
  | some place =>
    let (line, column) := lineAndColumn text.toList place
    s!"{c.cause.message} at line {line} column {column}"

end Devnet.Json
