import Devnet.Text.Hex
import Devnet.Text.Utf8
import Devnet.Url.Domain.Direction
import Devnet.Url.Domain.Label

namespace Devnet.Url.Domain

def folded? (cs : List Char) : Option (List Char) :=
  (cs.mapM mapChar).map fun parts => composed parts.flatten

def ascii? (cs : List Char) : Option (List Char) := do
  let labels ← ((← folded? cs).splitOn '.').mapM readLabel?
  if labels.all isLabel ∧ isReadable labels then
    return ['.'].intercalate (labels.map asciiForm)
  else none

end Devnet.Url.Domain

namespace Devnet.Url

inductive Fault where
  | relative
  | emptyHost
  | badDomain
  | badPort
  | badIpv4
  | badIpv6
  | badHostCharacter
  deriving DecidableEq

def Fault.message : Fault → String
  | relative => "relative URL without a base"
  | emptyHost => "empty host"
  | badDomain => "invalid international domain name"
  | badPort => "invalid port number"
  | badIpv4 => "invalid IPv4 address"
  | badIpv6 => "invalid IPv6 address"
  | badHostCharacter => "invalid domain character"

def percentByte (b : UInt8) : List Char := '%' :: (Text.hexFixed 2 b.toNat).map Char.toUpper

/-- Escapes what is not ASCII, the control characters, and the characters of a set. -/
def percentEncode (special : List Char) (cs : List Char) : List Char :=
  cs.flatMap fun c =>
    if c.toNat < 0x20 ∨ 0x7E < c.toNat ∨ c ∈ special then
      (String.utf8EncodeChar c).flatMap percentByte
    else [c]

/-- The bytes that a text with escapes stands for; a percent sign without two digits is itself. -/
def percentDecode : List Char → List UInt8
  | [] => []
  | '%' :: a :: b :: cs =>
    match Text.hexValue? a, Text.hexValue? b with
    | some x, some y => UInt8.ofNat (16 * x + y) :: percentDecode cs
    | _, _ => 0x25 :: percentDecode (a :: b :: cs)
  | c :: cs => String.utf8EncodeChar c ++ percentDecode cs

/-- A number of an IPv4 address: octal after `0`, hexadecimal after `0x`; `none` in the result if it
is beyond 32 bits. -/
def ipv4Number? (cs : List Char) : Option (Option Nat) :=
  let read (base : Nat) (ds : List Char) : Option (Option Nat) := do
    let vs ← ds.mapM Text.hexValue?
    if vs.all (· < base) then
      let n := vs.foldl (fun n d => base * n + d) 0
      return if n < UInt32.size then some n else none
    else none
  match cs with
  | [] => none
  | '0' :: 'x' :: ds | '0' :: 'X' :: ds => read 16 ds
  | '0' :: d :: ds => read 8 (d :: ds)
  | ds => read 10 ds

/-- The parts between the dots, without the empty one after a dot at the end. -/
def dottedParts (cs : List Char) : List (List Char) :=
  let parts := cs.splitOn '.'
  if parts.length ≠ 1 ∧ parts.getLast? = some [] then parts.dropLast else parts

/-- Whether a domain must be an IPv4 address: its last part is a number. -/
def endsInNumber (cs : List Char) : Bool :=
  match (dottedParts cs).getLast? with
  | none => false
  | some last =>
    (!last.isEmpty && last.all Char.isDigit) || (ipv4Number? last).isSome

/-- The last number fills all bytes that the others leave. -/
def ipv4? (cs : List Char) : Option Nat := do
  let parts := dottedParts cs
  let numbers ← (← parts.mapM ipv4Number?).mapM id
  let last ← numbers.getLast?
  let first := numbers.dropLast
  if 4 < parts.length ∨ 1 <<< (8 * (4 - first.length)) ≤ last ∨ first.any (255 < ·) then none
  else return first.foldl (fun n b => 256 * n + b) 0 <<< (8 * (4 - first.length)) + last

def ipv4Chars (n : Nat) : List Char :=
  let part (i : Nat) : List Char := Nat.toDigits 10 ((n >>> (8 * i)) % 256)
  part 3 ++ '.' :: part 2 ++ '.' :: part 1 ++ '.' :: part 0

/-- A byte of the IPv4 form inside an IPv6 address, without leading zeros. -/
def plainByte? (cs : List Char) : Option Nat :=
  if cs.isEmpty ∨ 3 < cs.length ∨ !cs.all Char.isDigit ∨ (1 < cs.length ∧ cs.head? = some '0') then
    none
  else
    let n := cs.foldl (fun n c => 10 * n + (c.toNat - '0'.toNat)) 0
    if n < 256 then some n else none

/-- The 16-bit pieces of one half of an IPv6 address; the last may be an IPv4 address. -/
def ipv6Pieces? : List (List Char) → Option (List Nat)
  | [] => some []
  | p :: ps => do
    if ps.isEmpty ∧ p.contains '.' then
      match ← (p.splitOn '.').mapM plainByte? with
      | [a, b, c, d] => return [256 * a + b, 256 * c + d]
      | _ => none
    else
      if p.isEmpty ∨ 4 < p.length then none
      else
        let ds ← p.mapM Text.hexValue?
        return Text.ofHexDigits ds :: (← ipv6Pieces? ps)

/-- The text before the first double colon and the text after it. -/
def splitDouble : List Char → Option (List Char × List Char)
  | ':' :: ':' :: cs => some ([], cs)
  | c :: cs => (splitDouble cs).map fun (a, b) => (c :: a, b)
  | [] => none

def colonParts (cs : List Char) : List (List Char) :=
  if cs.isEmpty then [] else cs.splitOn ':'

/-- The eight pieces of an IPv6 address; a double colon stands for as many zeros as are missing. -/
def ipv6? (cs : List Char) : Option (List Nat) :=
  match splitDouble cs with
  | none => do
    let ps ← ipv6Pieces? (colonParts cs)
    if ps.length = 8 then return ps else none
  | some (left, right) => do
    if left.contains '.' then none
    let ls ← ipv6Pieces? (colonParts left)
    let rs ← ipv6Pieces? (colonParts right)
    if ls.length + rs.length ≤ 7 then
      return ls ++ List.replicate (8 - ls.length - rs.length) 0 ++ rs
    else none

def zeroRun (ps : List Nat) : Nat := (ps.takeWhile (· = 0)).length

/-- Where the first of the longest runs of at least two zeros starts, and its length. -/
def longestRun (ps : List Nat) : Option (Nat × Nat) :=
  (List.range ps.length).foldl (fun best i =>
    let n := zeroRun (ps.drop i)
    if 2 ≤ n ∧ (best.all fun b => b.2 < n) then some (i, n) else best) none

def ipv6Chars (ps : List Nat) : List Char :=
  let joined (ps : List Nat) : List Char := [':'].intercalate (ps.map Text.hexPlain)
  match longestRun ps with
  | none => joined ps
  | some (i, n) => joined (ps.take i) ++ ':' :: ':' :: joined (ps.drop (i + n))

/-- The domain that a text with escapes stands for, in ASCII. -/
def domain? (cs : List Char) : Option (List Char) :=
  (Text.decodeUtf8? (percentDecode cs)).bind fun s => Domain.ascii? s.toList

/-- The text between brackets, if a text starts with one. -/
def bracketed? : List Char → Option (Except Fault (List Char))
  | '[' :: cs =>
    if cs.getLast? = some ']' then
      match ipv6? cs.dropLast with
      | some ps => some (.ok ('[' :: (ipv6Chars ps ++ [']'])))
      | none => some (.error .badIpv6)
    else some (.error .badIpv6)
  | _ => none

/-- The host of a URL whose scheme gives it a meaning, in its plain form. -/
def readHost (cs : List Char) : Except Fault (List Char) :=
  match bracketed? cs with
  | some r => r
  | none =>
    match domain? cs with
    | none => .error .badDomain
    | some [] => .error .emptyHost
    | some d =>
      if endsInNumber d then
        match ipv4? d with
        | some n => .ok (ipv4Chars n)
        | none => .error .badIpv4
      else .ok d

/-- The characters that no host may hold at all. -/
def forbiddenInHost : List Char :=
  ['\x00', '\t', '\n', '\r', ' ', '#', '/', ':', '<', '>', '?', '@', '[', '\\', ']', '^', '|']

/-- The host of a URL of any other scheme. -/
def readOpaqueHost (cs : List Char) : Except Fault (List Char) :=
  match bracketed? cs with
  | some r => r
  | none =>
    if cs.any forbiddenInHost.contains then .error .badHostCharacter
    else .ok (percentEncode [] cs)

end Devnet.Url
