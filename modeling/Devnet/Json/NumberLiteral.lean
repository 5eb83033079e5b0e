import Devnet.Json.Value

namespace Devnet.Json

/-- A spelled number; the digits are listed from the highest. -/
structure NumberLiteral where
  negative : Bool
  whole : List Nat
  fraction : Option (List Nat)
  /-- Whether the exponent has a minus, and its digits. -/
  exponent : Option (Bool × List Nat)
  deriving DecidableEq

def ofDigits (digits : List Nat) : Nat := digits.foldl (fun n d => 10 * n + d) 0

/-- Digits taken into a 64-bit significand, and how many came after it was full. -/
structure Significand where
  value : Nat
  dropped : Nat
  deriving DecidableEq

/-- Takes digits until the first that does not fit; it and all after it are dropped. -/
def Significand.take : Significand → List Nat → Significand
  | s, [] => s
  | s, d :: ds =>
    if 10 * s.value + d < UInt64.size then take ⟨10 * s.value + d, s.dropped⟩ ds
    else ⟨s.value, s.dropped + (ds.length + 1)⟩

/-- The highest power of ten that a binary64 number is scaled by at once. -/
def largestStep : Nat := 308

/-- `f * 10 ^ e` in binary64 steps, unless it leaves the range. -/
def scale : (steps : Nat) → (f : Float) → (e : Int) → Option Float
  | 0, f, _ => some f
  | k + 1, f, e =>
    if e.natAbs ≤ largestStep then
      let power := Float.ofScientific 1 false e.natAbs
      if 0 ≤ e then
        let g := f * power
        if g.isInf then none else some g
      else some (f / power)
    else if f == 0 then some f
    else if 0 ≤ e then none
    else scale k (f / Float.ofScientific 1 false largestStep) (e + largestStep)

/-- The bits of a number with the given sign. -/
def signedBits (negative : Bool) (f : Float) : UInt64 := (if negative then -f else f).toBits

/-- Digits of an exponent below `2 ^ 31`; `none` and the digits after it where it grows beyond. -/
def exponentValue : (n : Nat) → List Nat → Except (List Nat) Nat
  | n, [] => .ok n
  | n, d :: ds => if 10 * n + d < 0x80000000 then exponentValue (10 * n + d) ds else .error ds

namespace NumberLiteral

/-- The whole digits and the digits after the point in one significand, and its power of ten. -/
def significand (l : NumberLiteral) : Nat × Int :=
  let w := Significand.take ⟨0, 0⟩ l.whole
  match l.fraction with
  | none => (w.value, w.dropped)
  | some ds =>
    let f := Significand.take ⟨w.value, 0⟩ ds
    (f.value, (w.dropped : Int) - ((ds.length - f.dropped : Nat) : Int))

/-- The literal as binary64; the error counts the digits left unread where it leaves the range. -/
def real (l : NumberLiteral) : Except Nat Number :=
  let (m, e) := l.significand
  let finish (e : Int) : Except Nat Number :=
    match scale 8 (Float.ofNat m) e with
    | some f => .ok (.real (signedBits l.negative f))
    | none => .error 0
  match l.exponent with
  | none => finish e
  | some (minus, ds) =>
    match exponentValue 0 ds with
    | .ok n => finish (if minus then e - n else e + n)
    | .error rest =>
      if m ≠ 0 ∧ minus = false then .error rest.length
      else .ok (.real (signedBits l.negative 0))

def value (l : NumberLiteral) : Except Nat Number :=
  let n := ofDigits l.whole
  if l.fraction.isSome || l.exponent.isSome then l.real
  else if l.negative then
    if n = 0 then .ok (.real (signedBits true 0))
    else if n ≤ 0x8000000000000000 then .ok (.negative n)
    else l.real
  else if n < UInt64.size then .ok (.natural (UInt64.ofNat n))
  else l.real

theorem real_ne_natural (l : NumberLiteral) (n : UInt64) : l.real ≠ .ok (.natural n) := by
  intro h
  simp only [real] at h
  repeat' split at h
  all_goals simp at h

/-- A literal stands for a natural number only if it has no sign, point or exponent. -/
theorem value_eq_natural_iff (l : NumberLiteral) (n : UInt64) :
    l.value = .ok (.natural n) ↔
      l.negative = false ∧ l.fraction = none ∧ l.exponent = none ∧ ofDigits l.whole = n.toNat := by
  have hreal := real_ne_natural l n
  constructor
  · intro h
    simp only [value] at h
    split at h
    · exact absurd h hreal
    · rename_i hplain
      split at h
      · split at h
        · simp at h
        · split at h
          · simp at h
          · exact absurd h hreal
      · rename_i hs
        split at h
        · rename_i hlt
          have hn : UInt64.ofNat (ofDigits l.whole) = n := by simpa using h
          have hmod : ofDigits l.whole = n.toNat := by
            rw [← hn, UInt64.toNat_ofNat_of_lt' hlt]
          cases hf : l.fraction <;> cases he : l.exponent <;> simp_all
        · exact absurd h hreal
  · rintro ⟨hs, hf, he, hn⟩
    have hlt : n.toNat < UInt64.size := n.toNat_lt
    simp [value, hs, hf, he, hn, hlt]

end NumberLiteral

end Devnet.Json
