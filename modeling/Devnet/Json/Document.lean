import Devnet.Json.NumberLiteral
import Devnet.Json.StringLiteral

namespace Devnet.Json

/-- What stops a text from being taken apart further, and the bytes read when that is seen. -/
inductive Break where
  | fault (f : Fault) (place : Nat)
  /-- The text ends where a number needs a digit. -/
  | endInNumber (place : Nat)
  /-- A comma is followed by the closing bracket. -/
  | commaBeforeBracket (place : Nat)
  /-- A comma is followed by the closing brace. -/
  | commaBeforeBrace (place : Nat)
  /-- The text ends after a comma in an object. -/
  | commaBeforeEnd (place : Nat)
  deriving DecidableEq

/-- The complaint of a reader that wants the value. -/
def Break.whenRead : Break → Complaint
  | fault f place => .fault f place
  | endInNumber place => .fault .endInValue place
  | commaBeforeBracket place | commaBeforeBrace place => .fault .trailingComma place
  | commaBeforeEnd place => .fault .endInValue place

/-- The complaint of a reader that passes over the value. -/
def Break.whenSkipped : Break → Complaint
  | fault f place => .fault f place
  | endInNumber place => .fault .badNumber place
  | commaBeforeBracket place => .fault .valueExpected place
  | commaBeforeBrace place => .fault .keyExpected place
  | commaBeforeEnd place => .fault .endInObject place

mutual

/-- A value; `start` counts the bytes before it and `stop` those before what follows it. Where the
text stops making sense the tree holds the fault instead of what should stand there, since a reader
from front to back may refuse a value long before that place. -/
inductive Doc where
  | null (start stop : Nat)
  | bool (b : Bool) (start stop : Nat)
  | number (l : NumberLiteral) (start stop : Nat)
  | string (l : StringLiteral) (start stop : Nat)
  | array (items : Items) (start : Nat)
  | object (members : Members) (start : Nat)
  | broken (b : Break) (start : Nat)

/-- The items of an array up to its end or to where it breaks off; `lead` counts the bytes before
the item, or before the place of the break. -/
inductive Items where
  | close (stop : Nat)
  | broken (b : Break) (lead : Nat)
  | item (lead : Nat) (d : Doc) (rest : Items)

/-- The members of an object up to its end or to where it breaks off; `lead` counts the bytes
before the member with its comma. -/
inductive Members where
  | close (stop : Nat)
  | broken (b : Break) (lead : Nat)
  /-- A value that is no string stands in place of a key. -/
  | stray (d : Doc) (lead : Nat)
  /-- A key without a value; `after` counts the bytes up to the next token after it. -/
  | keyOnly (lead : Nat) (key : StringLiteral) (after : Nat) (b : Break)
  | member (lead : Nat) (key : StringLiteral) (after : Nat) (d : Doc) (rest : Members)

end

def isSpace (c : Char) : Bool := c = ' ' || c = '\n' || c = '\t' || c = '\r'

def Cursor.skipSpace : Cursor → Cursor
  | ⟨i, []⟩ => ⟨i, []⟩
  | ⟨i, c :: cs⟩ => if isSpace c then skipSpace ⟨i + 1, cs⟩ else ⟨i, c :: cs⟩

/-- Reads the letters of a word one by one. -/
def scanWord : List Char → Cursor → Except Break Cursor
  | [], c => .ok c
  | _ :: _, ⟨i, []⟩ => .error (.fault .endInValue i)
  | e :: es, ⟨i, c :: cs⟩ =>
    if c = e then scanWord es ⟨i + 1, cs⟩ else .error (.fault .wordExpected (i + 1))

def digit? (c : Char) : Option Nat :=
  if '0' ≤ c ∧ c ≤ '9' then some (c.toNat - '0'.toNat) else none

def scanDigits : List Char → List Nat × List Char
  | [] => ([], [])
  | c :: cs =>
    match digit? c with
    | some d => let (ds, r) := scanDigits cs; (d :: ds, r)
    | none => ([], c :: cs)

/-- At least one digit; `extra` bytes are read of a character that is none. -/
def scanSomeDigits (extra : Nat) (c : Cursor) : Except Break (List Nat × Cursor) :=
  match scanDigits c.rest with
  | ([], []) => .error (.endInNumber c.offset)
  | ([], _ :: _) => .error (.fault .badNumber (c.offset + extra))
  | (ds, r) => .ok (ds, ⟨c.offset + ds.length, r⟩)

/-- The digits before the point: a zero stands alone. -/
def scanWhole (c : Cursor) : Except Break (List Nat × Cursor) :=
  match c.rest with
  | '0' :: r =>
    match scanDigits r with
    | ([], _) => .ok ([0], ⟨c.offset + 1, r⟩)
    | (_ :: _, _) => .error (.fault .badNumber (c.offset + 2))
  | _ => scanSomeDigits 1 c

def scanFraction (c : Cursor) : Except Break (Option (List Nat) × Cursor) :=
  match c.rest with
  | '.' :: r => (scanSomeDigits 1 ⟨c.offset + 1, r⟩).map fun (ds, c) => (some ds, c)
  | _ => .ok (none, c)

def scanSign (c : Cursor) : Bool × Cursor :=
  match c.rest with
  | '+' :: r => (false, ⟨c.offset + 1, r⟩)
  | '-' :: r => (true, ⟨c.offset + 1, r⟩)
  | _ => (false, c)

def scanExponent (c : Cursor) : Except Break (Option (Bool × List Nat) × Cursor) :=
  match c.rest with
  | e :: r =>
    if e = 'e' ∨ e = 'E' then
      let (minus, c) := scanSign ⟨c.offset + 1, r⟩
      (scanSomeDigits 1 c).map fun (ds, c) => (some (minus, ds), c)
    else .ok (none, c)
  | [] => .ok (none, c)

def scanNumber (negative : Bool) (c : Cursor) : Except Break (NumberLiteral × Cursor) := do
  let (whole, c) ← scanWhole c
  let (fraction, c) ← scanFraction c
  let (exponent, c) ← scanExponent c
  return (⟨negative, whole, fraction, exponent⟩, c)

/-- The tree of a word and the place after it. -/
def wordDoc (word : List Char) (build : (start stop : Nat) → Doc) (start : Nat) (c : Cursor) :
    Doc × Option Cursor :=
  match scanWord word c with
  | .ok c => (build start c.offset, some c)
  | .error b => (.broken b start, none)

def numberDoc (negative : Bool) (start : Nat) (c : Cursor) : Doc × Option Cursor :=
  match scanNumber negative c with
  | .ok (l, c) => (.number l start c.offset, some c)
  | .error b => (.broken b start, none)

def stringDoc (start : Nat) (c : Cursor) : Doc × Option Cursor :=
  let (l, after) := StringLiteral.scan c
  (.string l start (l.last + 1), after)

mutual

/-- The value at the cursor, blanks before it skipped, and the place after it. -/
def scanDoc : (fuel : Nat) → Cursor → Doc × Option Cursor
  | 0, c => (.broken (.fault .endInValue c.offset) c.offset, none)
  | fuel + 1, c =>
    let ⟨i, rest⟩ := c.skipSpace
    match rest with
    | [] => (.broken (.fault .endInValue i) i, none)
    | '\x7b' :: r =>
      let (ms, after) := scanMembers fuel true ⟨i + 1, r⟩
      (.object ms i, after)
    | '[' :: r =>
      let (is, after) := scanItems fuel true ⟨i + 1, r⟩
      (.array is i, after)
    | '"' :: r => stringDoc i ⟨i + 1, r⟩
    | 'n' :: r => wordDoc ['u', 'l', 'l'] .null i ⟨i + 1, r⟩
    | 't' :: r => wordDoc ['r', 'u', 'e'] (.bool true) i ⟨i + 1, r⟩
    | 'f' :: r => wordDoc ['a', 'l', 's', 'e'] (.bool false) i ⟨i + 1, r⟩
    | '-' :: r => numberDoc true i ⟨i + 1, r⟩
    | c :: r =>
      if (digit? c).isSome then numberDoc false i ⟨i, c :: r⟩
      else (.broken (.fault .valueExpected (i + 1)) i, none)

/-- The items of an array from the first one or from the comma on. -/
def scanItems : (fuel : Nat) → (first : Bool) → Cursor → Items × Option Cursor
  | 0, _, c => (.broken (.fault .endInArray c.offset) c.offset, none)
  | fuel + 1, first, c =>
    let ⟨i, rest⟩ := c.skipSpace
    match rest with
    | [] => (.broken (.fault .endInArray i) i, none)
    | ']' :: r => (.close (i + 1), some ⟨i + 1, r⟩)
    | c :: r =>
      if first then scanItem fuel ⟨i, c :: r⟩
      else if c = ',' then
        let ⟨j, next⟩ := (Cursor.mk (i + 1) r).skipSpace
        match next with
        | [] => (.broken (.fault .endInValue j) j, none)
        | ']' :: _ => (.broken (.commaBeforeBracket (j + 1)) j, none)
        | _ => scanItem fuel ⟨j, next⟩
      else (.broken (.fault .commaOrBracketExpected (i + 1)) i, none)

def scanItem : (fuel : Nat) → Cursor → Items × Option Cursor
  | 0, c => (.broken (.fault .endInArray c.offset) c.offset, none)
  | fuel + 1, c =>
    match scanDoc fuel c with
    | (d, none) => (.item c.offset d (.broken (.fault .endInArray c.offset) c.offset), none)
    | (d, some after) =>
      let (rest, after) := scanItems fuel false after
      (.item c.offset d rest, after)

/-- The members of an object from the first one or from the comma on. -/
def scanMembers : (fuel : Nat) → (first : Bool) → Cursor → Members × Option Cursor
  | 0, _, c => (.broken (.fault .endInObject c.offset) c.offset, none)
  | fuel + 1, first, c =>
    let ⟨i, rest⟩ := c.skipSpace
    match rest with
    | [] => (.broken (.fault .endInObject i) i, none)
    | '\x7d' :: r => (.close (i + 1), some ⟨i + 1, r⟩)
    | c :: r =>
      if first then scanMember fuel i ⟨i, c :: r⟩
      else if c = ',' then
        let ⟨j, next⟩ := (Cursor.mk (i + 1) r).skipSpace
        match next with
        | [] => (.broken (.commaBeforeEnd j) i, none)
        | '\x7d' :: _ => (.broken (.commaBeforeBrace (j + 1)) i, none)
        | _ => scanMember fuel i ⟨j, next⟩
      else (.broken (.fault .commaOrBraceExpected (i + 1)) i, none)

def scanMember : (fuel : Nat) → (lead : Nat) → Cursor → Members × Option Cursor
  | 0, _, c => (.broken (.fault .endInObject c.offset) c.offset, none)
  | fuel + 1, lead, c =>
    match c.rest with
    | '"' :: r =>
      match StringLiteral.scan ⟨c.offset + 1, r⟩ with
      | (key, none) => (.keyOnly lead key key.last (.fault .endInString key.last), none)
      | (key, some after) =>
        let ⟨j, next⟩ := after.skipSpace
        match next with
        | ':' :: s =>
          match scanDoc fuel ⟨j + 1, s⟩ with
          | (d, none) => (.member lead key j d (.broken (.fault .endInObject j) j), none)
          | (d, some after) =>
            let (rest, after) := scanMembers fuel false after
            (.member lead key j d rest, after)
        | [] => (.keyOnly lead key j (.fault .endInObject j), none)
        | '\x7d' :: _ => (.keyOnly lead key (j + 1) (.fault .colonExpected (j + 1)), none)
        | _ => (.keyOnly lead key j (.fault .colonExpected (j + 1)), none)
    | _ => (.stray (scanDoc fuel c).1 lead, none)

end

/-- A text as a tree, and the bytes before what stands behind its value, if anything does. -/
structure Source where
  doc : Doc
  trailing : Option Nat

/-- Every step of the taking apart either reads a character or is followed by one that does, and
no value takes more than three steps for a character. -/
def Source.ofChars (cs : List Char) : Source :=
  match scanDoc (3 * cs.length + 3) ⟨0, cs⟩ with
  | (d, none) => ⟨d, none⟩
  | (d, some after) =>
    let ⟨i, rest⟩ := after.skipSpace
    ⟨d, if rest.isEmpty then none else some i⟩

def Source.ofText (s : String) : Source := Source.ofChars s.toList

end Devnet.Json
