import Devnet.CommandLine.Pattern
import Devnet.Environment
import Devnet.Log
import Devnet.Text.Alphanumeric
import Devnet.Text.Blank
import Devnet.Text.Hex

namespace Devnet.CommandLine

/-- Shows the lines up to a level of detail: those of the components whose path starts with
`target` that have a value for each of the `fields`. -/
structure Directive where
  target : Option String
  fields : List String
  /-- Zero shows nothing. -/
  detail : Nat

abbrev LogFilter := List Directive

def logVariable : String := "RUST_LOG"

inductive FilterFault where
  /-- It is no list of directives; the usual setting takes its place. -/
  | unreadable
  /-- A part of a directive would end inside a character; this stops the program. -/
  | torn
  deriving DecidableEq

structure WrittenDirective where
  target : Option String
  /-- The name of the span of work that it is restricted to. -/
  span : Option String
  /-- The names of values, each with whether a certain value is asked for. -/
  fields : List (String × Bool)
  detail : Nat

def levelNames : List (String × Nat) :=
  [("error", 1), ("warn", 2), ("info", 3), ("debug", 4), ("trace", 5), ("off", 0)]

def mostDetail : Nat := 5

/-- A level by number or by name in any case. -/
def readDetail? (s : String) : Option Nat :=
  let digits := match s.toList with
    | '+' :: ds => ds
    | ds => ds
  if !digits.isEmpty && digits.all Char.isDigit then
    let n := digits.foldl (fun n c => 10 * n + (c.toNat - '0'.toNat)) 0
    if n ≤ mostDetail then some n else none
  else levelNames.lookup (String.ofList (s.toList.map Char.toLower))

/-- Digits, perhaps a point, and perhaps an exponent, or a name for what is no finite number. -/
def isUnsignedNumber (cs : List Char) : Bool :=
  let digits := cs.takeWhile Char.isDigit
  let (fraction, rest) := match cs.dropWhile Char.isDigit with
    | '.' :: r => (r.takeWhile Char.isDigit, r.dropWhile Char.isDigit)
    | r => ([], r)
  let exponent := match rest with
    | [] => true
    | e :: '+' :: ds | e :: '-' :: ds =>
      e.toLower == 'e' && !ds.isEmpty && ds.all Char.isDigit
    | e :: ds => e.toLower == 'e' && !ds.isEmpty && ds.all Char.isDigit
  ((!digits.isEmpty || !fraction.isEmpty) && exponent) ||
    String.ofList (cs.map Char.toLower) ∈ ["inf", "infinity", "nan"]

/-- A value that lines are compared with: a number or a pattern. -/
def isFieldValue (cs : List Char) : Bool :=
  (match cs with
    | '+' :: ds => isUnsignedNumber ds
    | _ => false) || Pattern.isValid cs

/-- The name of a value, up to the equals sign, and what it is compared with, up to the next. -/
def readField? (s : String) : Option (String × Bool) :=
  match s.toList.splitOn '=' with
  | name :: value :: _ => if isFieldValue value then some (String.ofList name, true) else none
  | _ => if s.isEmpty then none else some (s, false)

/-- Where a character stands in a directive; the number is where the present part begins. -/
inductive DirectivePlace where
  | start
  | name (begin : Nat)
  | span (begin : Nat)
  | field (begin : Nat)
  | fieldsEnd
  | spanEnd
  | level (begin : Nat)

/-- Whether a character begins or the text ends at a byte. -/
def isBoundary (bytes : List UInt8) (i : Nat) : Bool :=
  match bytes[i]? with
  | some b => b.toNat / 64 != 2
  | none => i == bytes.length

def slice (bytes : List UInt8) (i j : Nat) : Except FilterFault String :=
  if isBoundary bytes i && isBoundary bytes j then
    .ok (Text.decodeUtf8Lossy ((bytes.drop i).take (j - i)))
  else .error .torn

/-- What a directive can start with, beside a bracket. -/
def canStart (c : Char) : Bool :=
  c = '-' || c = ':' || c = '_' || Text.isAlphanumeric c

abbrev DirectiveState := WrittenDirective × DirectivePlace

/-- Reads the character `c` that stands at byte `i`. -/
def readDirectiveChar (bytes : List UInt8) (d : DirectiveState) (i : Nat) (c : Char) :
    Except FilterFault DirectiveState := do
  let (w, place) := d
  match place with
  | .start =>
    if c = '[' then return (w, .span (i + 1))
    else if canStart c then return (w, .name i)
    else throw .unreadable
  | .name b =>
    if c = '=' then return ({ w with target := some (← slice bytes b i) }, .level (i + 1))
    else if c = '[' then return ({ w with target := some (← slice bytes b i) }, .span (i + 1))
    else return d
  | .span b =>
    if c = ']' then return ({ w with span := some (← slice bytes b i) }, .spanEnd)
    else if c = '\x7b' then
      let name ← slice bytes b i
      return ({ w with span := if name.isEmpty then none else some name }, .field (i + 1))
    else return d
  | .field b =>
    if c = '\x7d' then
      match readField? (← slice bytes b i) with
      | some f => return ({ w with fields := w.fields ++ [f] }, .fieldsEnd)
      | none => throw .unreadable
    else return d
  | .fieldsEnd => if c = ']' then return (w, .spanEnd) else throw .unreadable
  | .spanEnd => if c = '=' then return (w, .level (i + 1)) else throw .unreadable
  | .level _ => return d

def readDirectiveChars (bytes : List UInt8) (d : DirectiveState) :
    (i : Nat) → List Char → Except FilterFault DirectiveState
  | _, [] => .ok d
  | i, c :: cs => do
    let d ← readDirectiveChar bytes d i c
    readDirectiveChars bytes d (i + c.utf8Size) cs

/-- Reads a directive. The places of its parts are counted without the blanks at its front, and the
parts are then taken from the text with them. -/
def readDirective (cs : List Char) : Except FilterFault WrittenDirective := do
  let bytes := Text.encodeUtf8 (String.ofList cs)
  let empty : WrittenDirective := ⟨none, none, [], mostDetail⟩
  let (w, place) ← readDirectiveChars bytes (empty, .start) 0 (Text.trim cs)
  match place with
  | .name b =>
    let s ← slice bytes b bytes.length
    match readDetail? s with
    | some n => return { w with detail := n }
    | none => return { w with target := some s }
  | .level b =>
    let s ← slice bytes b bytes.length
    if s.isEmpty then return w
    else
      match readDetail? s with
      | some n => return { w with detail := n }
      | none => throw .unreadable
  | .spanEnd => return w
  | _ => throw .unreadable

/-- What a directive says about lines outside of spans of work: nothing if it is restricted to a
span or to certain values. -/
def WrittenDirective.onLines? (w : WrittenDirective) : Option Directive :=
  if w.span.isSome || w.fields.any (·.2) then none
  else some ⟨w.target, w.fields.map (·.1), w.detail⟩

def LogFilter.ofText (s : String) : Except FilterFault LogFilter := do
  let written ← ((s.toList.splitOn ',').filter (!·.isEmpty)).mapM readDirective
  return written.filterMap WrittenDirective.onLines?

/-- Lines of the level info and above. -/
def LogFilter.usual : LogFilter := [⟨none, [], 3⟩]

/-- The setting in an environment; nothing if it stops the program. -/
def LogFilter.ofEnvironment? (env : Environment) : Option LogFilter :=
  match (env.text? logVariable).map LogFilter.ofText with
  | some (.ok f) => some f
  | some (.error .torn) => none
  | some (.error .unreadable) | none => some .usual

namespace Directive

/-- Whether a directive is about a line; each has its message as a value. -/
def fits (d : Directive) (l : LogLine) : Bool :=
  d.target.all (fun t => t.toList.isPrefixOf l.component.path.toList) &&
    d.fields.all fun f => f == "message" || l.fields.any (·.1 == f)

/-- How special a directive is: by the length of its target, then by the number of its values. -/
def rank (d : Directive) : Nat × Nat :=
  (match d.target with
    | some t => t.utf8ByteSize + 1
    | none => 0, d.fields.length)

/-- Whether a directive comes before another that fits the same line; of equally special ones, the
one whose values have the later names. -/
def yieldsTo (d e : Directive) : Bool :=
  d.rank.1 < e.rank.1 ||
    (d.rank.1 == e.rank.1 && (d.rank.2 < e.rank.2 ||
      (d.rank.2 == e.rank.2 && !decide (e.fields < d.fields))))

end Directive

/-- The directive that decides on a line; of equal ones the last. -/
def LogFilter.deciding? (f : LogFilter) (l : LogLine) : Option Directive :=
  (f.filter (·.fits l)).foldl (fun best d =>
    if best.all (·.yieldsTo d) then some d else best) none

def LogFilter.shows (f : LogFilter) (l : LogLine) : Bool :=
  (f.deciding? l).any fun d => l.level.detail ≤ d.detail

/-- A character of a message as it is shown: what could control a terminal is written by number. -/
def shownChar (c : Char) : List Char :=
  if c.toNat ∈ [0x07, 0x08, 0x0C, 0x1B, 0x7F] then '\\' :: 'x' :: Text.hexFixed 2 c.toNat
  else if 0x80 ≤ c.toNat ∧ c.toNat ≤ 0x9F then
    '\\' :: 'u' :: '\x7b' :: (Text.hexPlain c.toNat ++ ['\x7d'])
  else [c]

def shownLine (l : LogLine) : String :=
  let message := String.ofList (l.message.toList.flatMap shownChar)
  String.ofList (Text.trimFront l.level.label.toList) ++ " " ++ message ++ l.fieldText

end Devnet.CommandLine
