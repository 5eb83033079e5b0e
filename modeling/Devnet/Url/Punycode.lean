namespace Devnet.Url.Punycode

def digit? (c : Char) : Option Nat :=
  if 'a' ≤ c ∧ c ≤ 'z' then some (c.toNat - 'a'.toNat)
  else if 'A' ≤ c ∧ c ≤ 'Z' then some (c.toNat - 'A'.toNat)
  else if '0' ≤ c ∧ c ≤ '9' then some (c.toNat - '0'.toNat + 26)
  else none

def digitChar (d : Nat) : Char :=
  if d < 26 then Char.ofNat ('a'.toNat + d) else Char.ofNat ('0'.toNat + d - 26)

/-- The least digit value at place `k` that is not the last one. -/
def threshold (k bias : Nat) : Nat := min 26 (max 1 (k - bias))

/-- Divides until the rest fits the widest place. -/
def shrink : (fuel delta k : Nat) → Nat × Nat
  | 0, delta, k => (delta, k)
  | fuel + 1, delta, k => if 455 < delta then shrink fuel (delta / 35) (k + 36) else (delta, k)

/-- The bias after an insertion into a text that then has `count` characters. -/
def adapt (delta count : Nat) (isFirst : Bool) : Nat :=
  let d := if isFirst then delta / 700 else delta / 2
  let (d, k) := shrink 64 (d + d / count) 0
  k + 36 * d / (d + 38)

def firstBias : Nat := 72

def firstPoint : Nat := 0x80

/-- Numbers from here on are too large. -/
def numberLimit : Nat := UInt32.size

/-- Reads one number of variable length; `weight` is what the next digit counts. -/
def number? (bias : Nat) : (k weight acc : Nat) → List Char → Option (Nat × List Char)
  | _, _, _, [] => none
  | k, weight, acc, c :: cs => do
    let d ← digit? c
    let acc := acc + d * weight
    let t := threshold k bias
    if numberLimit ≤ acc then none
    else if d < t then return (acc, cs)
    else if numberLimit ≤ weight * (36 - t) then none
    else number? bias (k + 36) (weight * (36 - t)) acc cs

/-- Inserts characters into `text`: `point` is the least code point still to come, and `i` the place
behind the last insertion, zero before the first. -/
def insertions? : (fuel : Nat) → (text : List Char) → (point i bias : Nat) → List Char →
    Option (List Char)
  | _, text, _, _, _, [] => some text
  | 0, _, _, _, _, _ :: _ => none
  | fuel + 1, text, point, i, bias, cs => do
    let (total, rest) ← number? bias 36 1 i cs
    let count := text.length + 1
    let point := point + total / count
    let place := total % count
    if 0x110000 ≤ point ∨ (0xD800 ≤ point ∧ point < 0xE000) then none
    else
      insertions? fuel (text.take place ++ Char.ofNat point :: text.drop place) point (place + 1)
        (adapt (total - i) count (i = 0)) rest

/-- Splits at the last hyphen; one at the front belongs to the digits. -/
def splitPlain (cs : List Char) : List Char × List Char :=
  let digits := (cs.reverse.takeWhile (· ≠ '-')).reverse
  let plain := cs.take (cs.length - digits.length - 1)
  if plain.isEmpty then ([], cs) else (plain, digits)

/-- The label that is written as `cs`: ASCII characters stand as they are before the last hyphen,
and the rest says in rising order of code points which characters are inserted and where. -/
def decode? (cs : List Char) : Option (List Char) :=
  let (plain, digits) := splitPlain cs
  insertions? digits.length plain firstPoint 0 firstBias digits

/-- The digits of a number of variable length from place `k` on. -/
def numberDigits (bias : Nat) : (fuel k n : Nat) → List Char
  | 0, _, _ => []
  | fuel + 1, k, n =>
    let t := threshold k bias
    if n < t then [digitChar n]
    else digitChar (t + (n - t) % (36 - t)) :: numberDigits bias fuel (k + 36) ((n - t) / (36 - t))

/-- What has been written, and what the next number starts from. -/
structure Progress where
  digits : List Char
  delta : Nat
  bias : Nat
  /-- How many characters stand in the text so far. -/
  count : Nat

/-- Passes over a character while those of the code point `point` are inserted into a text that had
`plain` characters at first. -/
def Progress.pass (plain point : Nat) (p : Progress) (c : Char) : Progress :=
  if c.toNat < point then { p with delta := p.delta + 1 }
  else if c.toNat = point then
    ⟨p.digits ++ numberDigits p.bias (p.delta + 1) 36 p.delta, 0,
      adapt p.delta (p.count + 1) (p.count = plain), p.count + 1⟩
  else p

/-- Inserts the characters of the code points from `point` on. -/
def insertFrom (cs : List Char) (plain : Nat) : (fuel point : Nat) → Progress → Progress
  | 0, _, p => p
  | fuel + 1, point, p =>
    match ((cs.map Char.toNat).filter (point ≤ ·)).min? with
    | none => p
    | some next =>
      let p := { p with delta := p.delta + (next - point) * (p.count + 1) }
      let p := cs.foldl (Progress.pass plain next) p
      insertFrom cs plain fuel (next + 1) { p with delta := p.delta + 1 }

def encode (cs : List Char) : List Char :=
  let plain := cs.filter (·.toNat < firstPoint)
  let p := insertFrom cs plain.length cs.length firstPoint ⟨[], 0, firstBias, plain.length⟩
  plain ++ (if plain.isEmpty then [] else ['-']) ++ p.digits

end Devnet.Url.Punycode
