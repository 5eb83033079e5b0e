namespace Devnet

@[ext] structure Duration where
  nanoseconds : Nat
  deriving DecidableEq

namespace Duration

def ofSeconds (n : Nat) : Duration := ⟨n * 1000000000⟩

def ofMilliseconds (n : Nat) : Duration := ⟨n * 1000000⟩

/-- The least number of whole milliseconds that is not shorter. -/
def millisecondsUp (d : Duration) : Nat :=
  d.nanoseconds / 1000000 + if d.nanoseconds % 1000000 = 0 then 0 else 1

/-- The `width` last decimal digits of `n`, the highest first. -/
def decimalFixed : (width n : Nat) → List Char
  | 0, _ => []
  | w + 1, n => decimalFixed w (n / 10) ++ [Nat.digitChar (n % 10)]

/-- `n` parts, of which `10 ^ places` make one unit. -/
def inUnit (n places : Nat) (unit : String) : String :=
  let fraction := ((decimalFixed places n).reverse.dropWhile (· == '0')).reverse
  let point := if fraction.isEmpty then "" else "." ++ String.ofList fraction
  toString (n / Nat.pow 10 places) ++ point ++ unit

def text (d : Duration) : String :=
  let n := d.nanoseconds
  if 1000000000 ≤ n then inUnit n 9 "s"
  else if 1000000 ≤ n then inUnit n 6 "ms"
  else if 1000 ≤ n then inUnit n 3 "µs"
  else inUnit n 0 "ns"

theorem millisecondsUp_eq (d : Duration) :
    d.millisecondsUp = (d.nanoseconds + 999999) / 1000000 := by
  unfold millisecondsUp
  split <;> omega

theorem millisecondsUp_ofMilliseconds (n : Nat) : (ofMilliseconds n).millisecondsUp = n := by
  simp [millisecondsUp, ofMilliseconds]

end Duration

end Devnet
