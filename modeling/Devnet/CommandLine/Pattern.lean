import Devnet.Text.Alphanumeric
import Devnet.Text.Blank
import Devnet.Text.Hex

namespace Devnet.CommandLine.Pattern

structure Modes where
  /-- Blanks do not count, and neither does what stands between a `#` and the end of its line. -/
  isSpaced : Bool
  /-- It is about characters and not about bytes, none of which could be a part of a character. -/
  isUnicode : Bool
  deriving DecidableEq

inductive Use where
  | item
  /-- A member of a class, or the start of a range in it. -/
  | member
  | rangeEnd (low : Char)
  deriving DecidableEq

inductive Place where
  /-- Between items; `operand` tells whether there is something to repeat. -/
  | items (operand : Bool)
  /-- Behind the bracket that opens a group. -/
  | groupStart
  /-- Among the flags of a group and the minus before those that are cleared; the last first. -/
  | flags (read : List Char)
  /-- Behind a `P` among no other flags. -/
  | namedGroup
  /-- In the name of a group; the last character comes first. -/
  | groupName (read : List Char)
  | escape (u : Use)
  /-- Among hexadecimal digits: whether they spell a byte, how many are to come, and what the others
  spell. -/
  | hexDigits (isByte : Bool) (count value : Nat) (u : Use)
  /-- Behind the letter that announces the letter of a set of characters. -/
  | property (u : Use)
  /-- At the front of a class, where a closing bracket stands for itself. -/
  | classStart (mayNegate : Bool)
  /-- Behind hyphens at the front of a class. -/
  | hyphens
  | members
  /-- Behind a member of a class; the character, if a range can start from it. -/
  | afterMember (low : Option Char)
  | range (low : Char)
  /-- At the second character of an operator between sets. -/
  | secondMark
  deriving DecidableEq

/-- Whether blanks may be left out at a place. -/
def Place.maySkip : Place → Bool
  | .flags _ | .namedGroup | .groupName _ | .escape _ | .secondMark => false
  | _ => true

structure State where
  modes : Modes
  /-- The modes around each of the open groups, from the inside out. -/
  outer : List Modes
  /-- The names of groups so far. -/
  names : List (List Char)
  /-- How many classes are open, each inside of the one before. -/
  classes : Nat
  inComment : Bool
  place : Place
  deriving DecidableEq

def start : State := ⟨⟨false, true⟩, [], [], 0, false, .items false⟩

def State.to (s : State) (p : Place) : Option State := some { s with place := p }

/-- Takes a character that stands for itself, or for which an escape stands. -/
def literal (s : State) (c : Char) (u : Use) : Option State :=
  let isAllowed := s.modes.isUnicode || c.toNat < 0x80
  match u with
  | .item => s.to (.items true)
  | .member => if isAllowed then s.to (.afterMember (some c)) else none
  | .rangeEnd low => if isAllowed ∧ low ≤ c then s.to .members else none

/-- Takes an escape that stands for a set of characters. -/
def charSet (s : State) : Use → Option State
  | .item => s.to (.items true)
  | .member => s.to (.afterMember none)
  | .rangeEnd _ => none

/-- The letters that stand for a single character behind a backslash. -/
def namedChars : List (Char × Char) :=
  [('a', '\x07'), ('f', '\x0C'), ('t', '\t'), ('n', '\n'), ('r', '\r'), ('v', '\x0B')]

/-- The letters that stand for a set of characters behind a backslash. -/
def namedSets : List Char := ['d', 's', 'w']

/-- The letters that stand for all characters but those of a set behind a backslash. -/
def negatedSets : List Char := ['D', 'S', 'W']

/-- The signs for an end of a word behind a backslash. Only words of ASCII are looked for. -/
def wordEnds : List Char := ['b', 'B', '<', '>']

/-- The general categories with a name of one letter. -/
def categories : List Char := ['l', 'm', 'n', 'p', 's', 'z', 'c']

/-- Characters that stand for themselves behind a backslash. -/
def isEscapable (c : Char) : Bool :=
  c.toNat < 0x80 && !c.isAlphanum && c != '<' && c != '>'

def hexWidth? (c : Char) : Option Nat :=
  match c with
  | 'x' => some 2
  | 'u' => some 4
  | 'U' => some 8
  | _ => none

/-- Takes the character behind a backslash. -/
def escape (s : State) (c : Char) (u : Use) : Option State :=
  match hexWidth? c, namedChars.lookup c with
  | some n, _ => s.to (.hexDigits (c == 'x') n 0 u)
  | none, some v => literal s v u
  | none, none =>
    if c = 'p' ∨ c = 'P' then if s.modes.isUnicode then s.to (.property u) else none
    else if c ∈ namedSets then charSet s u
    else if c ∈ negatedSets then if s.modes.isUnicode then charSet s u else none
    else if isEscapable c then literal s c u
    else if u = .item ∧ (c = 'A' ∨ c = 'z' ∨ (c ∈ wordEnds ∧ !s.modes.isUnicode)) then
      s.to (.items true)
    else none

/-- Takes a hexadecimal digit, of which `count` are to come. -/
def hexDigit (s : State) (isByte : Bool) (count value : Nat) (u : Use) (d : Nat) : Option State :=
  let value := 16 * value + d
  if 1 < count then s.to (.hexDigits isByte (count - 1) value u)
  else if !value.isValidChar ∨ (isByte ∧ !s.modes.isUnicode ∧ 0x80 ≤ value) then none
  else literal s (Char.ofNat value) u

def flagChars : List Char := ['i', 'm', 's', 'U', 'u', 'R', 'x']

/-- What flags say of one of them; a minus sign clears those behind it. -/
def flag? (read : List Char) (f : Char) : Option Bool :=
  if f ∈ read then some (!(read.dropWhile (· ≠ f)).contains '-') else none

def Modes.change (m : Modes) (read : List Char) : Modes :=
  ⟨(flag? read 'x').getD m.isSpaced, (flag? read 'u').getD m.isUnicode⟩

/-- Takes a character among the flags of a group. Flags without a group are for what is left of the
group around them. -/
def flagChar (s : State) (read : List Char) (c : Char) : Option State :=
  let modes := s.modes.change read
  if c = ':' ∨ c = ')' then
    if read.head? = some '-' then none
    else if c = ':' then some { s with modes, place := .items false }
    else if read.isEmpty then none
    else some { s with modes, outer := s.outer.tail, place := .items false }
  else if c = '<' ∧ read.isEmpty then s.to (.groupName [])
  else if c = 'P' ∧ read.isEmpty then s.to .namedGroup
  else if (c = '-' ∨ c ∈ flagChars) ∧ c ∉ read then s.to (.flags (c :: read))
  else none

def isNameChar (c : Char) (isFirst : Bool) : Bool :=
  c == '_' || (Text.isAlphanumeric c && !(isFirst && c.isDigit)) ||
    (!isFirst && (c == '.' || c == '[' || c == ']'))

/-- Takes a character of a group's name; no two groups have the same. -/
def nameChar (s : State) (read : List Char) (c : Char) : Option State :=
  if c = '>' then
    if read.isEmpty ∨ read ∈ s.names then none
    else some { s with names := read :: s.names, place := .items false }
  else if isNameChar c read.isEmpty then s.to (.groupName (c :: read))
  else none

/-- The sets of characters that a class can have by name. -/
def classNames : List String :=
  ["alnum", "alpha", "ascii", "blank", "cntrl", "digit", "graph", "lower", "print", "punct",
   "space", "upper", "word", "xdigit"]

/-- Whether a name of a set that is left out follows an opening bracket. -/
def startsNegatedName : List Char → Bool
  | ':' :: '^' :: cs =>
    classNames.contains (String.ofList (cs.takeWhile (· ≠ ':'))) &&
      [':', ']'].isPrefixOf (cs.dropWhile (· ≠ ':'))
  | _ => false

/-- The next character that counts; in a comment each does. -/
def peek? (m : Modes) (rest : List Char) : Option Char :=
  if m.isSpaced then
    match Text.trimFront rest with
    | '#' :: cs => (Text.trimFront cs).head?.or rest.head?
    | cs => cs.head?.or rest.head?
  else rest.head?

def memberStart (s : State) (c : Char) (rest : List Char) : Option State :=
  if c = '[' then
    if !s.modes.isUnicode ∧ startsNegatedName rest then none
    else some { s with classes := s.classes + 1, place := .classStart true }
  else if c = ']' then
    if s.classes ≤ 1 then some { s with classes := 0, place := .items true }
    else some { s with classes := s.classes - 1, place := .members }
  else if (c = '&' ∨ c = '-' ∨ c = '~') ∧ rest.head? = some c then s.to .secondMark
  else if c = '\\' then s.to (.escape .member)
  else literal s c .member

/-- Takes a character behind a member: the hyphen of a range unless another hyphen or the end of the
class follows. -/
def afterMember (s : State) (low : Option Char) (c : Char) (rest : List Char) : Option State :=
  if c = '-' ∧ peek? s.modes rest ≠ some ']' ∧ peek? s.modes rest ≠ some '-' then
    low.bind fun a => s.to (.range a)
  else memberStart s c rest

def item (s : State) (c : Char) (operand : Bool) : Option State :=
  match c with
  | '(' => some { s with outer := s.modes :: s.outer, place := .groupStart }
  | ')' => s.outer.head?.bind fun modes =>
      some { s with modes, outer := s.outer.tail, place := .items true }
  | '|' => s.to (.items false)
  | '[' => some { s with classes := 1, place := .classStart true }
  | '*' | '+' | '?' => if operand then s.to (.items true) else none
  | '\x7b' => none
  | '\\' => s.to (.escape .item)
  | '.' => if s.modes.isUnicode then s.to (.items true) else none
  | _ => s.to (.items true)

/-- Takes a character, which `rest` follows. -/
def step (s : State) (c : Char) (rest : List Char) : Option State :=
  let skips := s.modes.isSpaced && s.place.maySkip
  if s.inComment then some { s with inComment := c ≠ '\n' }
  else if skips ∧ Text.isBlank c then some s
  else if skips ∧ c = '#' then some { s with inComment := true }
  else match s.place with
    | .items operand => item s c operand
    | .groupStart => if c = '?' then s.to (.flags []) else item s c false
    | .flags read => flagChar s read c
    | .namedGroup => if c = '<' then s.to (.groupName []) else none
    | .groupName read => nameChar s read c
    | .escape u => escape s c u
    | .hexDigits isByte count value u => (Text.hexValue? c).bind (hexDigit s isByte count value u)
    | .property u => if c.toLower ∈ categories then charSet s u else none
    | .classStart mayNegate =>
      if c = '^' ∧ mayNegate then if s.modes.isUnicode then s.to (.classStart false) else none
      else if c = '-' then s.to .hyphens
      else if c = ']' then s.to .members
      else memberStart s c rest
    | .hyphens => if c = '-' then some s else memberStart s c rest
    | .members => memberStart s c rest
    | .afterMember low => afterMember s low c rest
    | .range low =>
      if c = '\\' then s.to (.escape (.rangeEnd low)) else literal s c (.rangeEnd low)
    | .secondMark => s.to .members

def run (s : State) : List Char → Option State
  | [] => some s
  | c :: cs => (step s c cs).bind fun s => run s cs

def State.isComplete (s : State) : Bool :=
  s.outer.isEmpty &&
    match s.place with
    | .items _ => true
    | _ => false

/-- Whether the characters are a pattern; nothing is matched with it. Curly brackets never reach one
as a pair, so that counted repetitions and escapes in curly brackets are never closed. -/
def isValid (cs : List Char) : Bool := (run start cs).any State.isComplete

end Devnet.CommandLine.Pattern
