namespace Devnet.Decimal

/-- A finite binary64 number without its sign: `mantissa * 2 ^ exponent`. -/
structure Binary where
  mantissa : Nat
  exponent : Int
  deriving DecidableEq

/-- The bit of a mantissa that is not stored; the stored ones are below it. -/
def hiddenBit : Nat := 0x10000000000000

/-- The number in the low 63 bits. -/
def Binary.ofBits (bits : UInt64) : Binary :=
  let low := bits.toNat % hiddenBit
  let high := bits.toNat / hiddenBit % 0x800
  if high = 0 then ⟨low, -1074⟩ else ⟨low + hiddenBit, (high : Int) - 1075⟩

/-- A fraction of naturals, the denominator not zero. -/
structure Ratio where
  num : Nat
  den : Nat

def Ratio.lt (a b : Ratio) : Bool := a.num * b.den < b.num * a.den

def Ratio.le (a b : Ratio) : Bool := a.num * b.den ≤ b.num * a.den

def Ratio.scaled (n base : Nat) (e : Int) : Ratio :=
  if 0 ≤ e then ⟨n * Nat.pow base e.toNat, 1⟩ else ⟨n, Nat.pow base (-e).toNat⟩

/-- The reals that round to a number, in units of a quarter of its last place. -/
structure Interval where
  low : Ratio
  value : Ratio
  high : Ratio
  closed : Bool

def Binary.interval (b : Binary) : Interval :=
  let narrow := b.mantissa = hiddenBit ∧ b.exponent ≠ -1074
  let at4 (n : Nat) : Ratio := Ratio.scaled n 2 (b.exponent - 2)
  ⟨at4 (4 * b.mantissa - if narrow then 1 else 2), at4 (4 * b.mantissa),
    at4 (4 * b.mantissa + 2), b.mantissa % 2 = 0⟩

def Interval.contains (i : Interval) (x : Ratio) : Bool :=
  if i.closed then i.low.le x && x.le i.high else i.low.lt x && x.lt i.high

def atPlace (n : Nat) (e : Int) : Ratio := Ratio.scaled n 10 e

/-- Of the two neighbours of the value on the grid of `10 ^ e`, the nearer one that lies in the
interval; of two as near, the even one. -/
def Interval.candidate? (i : Interval) (e : Int) : Option Nat :=
  let unit := atPlace 1 e
  let below := i.value.num * unit.den / (i.value.den * unit.num)
  let above := below + 1
  let lowIn := 0 < below && i.contains (atPlace below e)
  let highIn := i.contains (atPlace above e)
  if lowIn && highIn then
    let middle := Ratio.scaled (2 * below + 1) 10 e
    let twice : Ratio := ⟨2 * i.value.num, i.value.den⟩
    if twice.lt middle then some below
    else if middle.lt twice then some above
    else if below % 2 = 0 then some below else some above
  else if lowIn then some below
  else if highIn then some above
  else none

/-- Digits, highest first, and the power of ten of the last of them. -/
structure Digits where
  coefficient : Nat
  exponent : Int
  deriving DecidableEq

/-- The least power of ten that is above the value, found upwards from `e`. -/
def magnitude (x : Ratio) : (tries : Nat) → (e : Int) → Int
  | 0, e => e
  | t + 1, e => if x.lt (atPlace 1 e) then e else magnitude x t (e + 1)

/-- The first grid with a hit, from the coarsest on. -/
def Interval.search (i : Interval) : (tries : Nat) → (e : Int) → Digits
  | 0, e => ⟨(i.candidate? e).getD 0, e⟩
  | t + 1, e =>
    match i.candidate? e with
    | some n => ⟨n, e⟩
    | none => search i t (e - 1)

/-- The shortest digits of a number that is not zero, without zeros at their end. -/
def Binary.shortest (b : Binary) : Digits :=
  let i := b.interval
  let top := magnitude i.value 700 (-330)
  i.search 18 top

structure Layout where
  /-- The lowest power of ten of a first digit that is written without an exponent. -/
  lowest : Int
  /-- The highest such power. -/
  highest : Int
  deriving DecidableEq

/-- `digits` with a point after the first `whole` of them. -/
def withPoint (digits : List Char) (whole : Nat) : List Char :=
  let padded := digits ++ List.replicate (whole - digits.length) '0'
  let fraction := padded.drop whole
  padded.take whole ++ '.' :: (if fraction.isEmpty then ['0'] else fraction)

/-- Drops the zeros at the end, counting them into the exponent. -/
def Digits.normal : (tries : Nat) → Digits → Digits
  | 0, d => d
  | t + 1, d =>
    if d.coefficient % 10 = 0 ∧ d.coefficient ≠ 0 then
      normal t ⟨d.coefficient / 10, d.exponent + 1⟩
    else d

def Digits.text (layout : Layout) (d : Digits) : List Char :=
  let d := d.normal 400
  let digits := Nat.toDigits 10 d.coefficient
  let first := d.exponent + digits.length - 1
  if layout.lowest ≤ first ∧ first ≤ layout.highest then
    if 0 ≤ first then withPoint digits (first.toNat + 1)
    else '0' :: '.' :: (List.replicate (-first - 1).toNat '0' ++ digits)
  else
    let mark := if first < 0 then '-' else '+'
    let mantissa :=
      match digits with
      | [] => []
      | c :: cs => if cs.isEmpty then [c] else c :: '.' :: cs
    mantissa ++ 'e' :: mark :: Nat.toDigits 10 first.natAbs

/-- The text of a finite binary64 number from its bits. -/
def text (layout : Layout) (bits : UInt64) : String :=
  let b := Binary.ofBits bits
  let unsigned := if b.mantissa = 0 then ['0', '.', '0'] else b.shortest.text layout
  String.ofList (if bits.toNat < 0x8000000000000000 then unsigned else '-' :: unsigned)

end Devnet.Decimal
