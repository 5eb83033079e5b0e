namespace Devnet.Curve

/-- The prime of the field. -/
def p : Nat := 0xFFFFFFFFFFFFFFFFFFFFFFFFFFFFFFFFFFFFFFFFFFFFFFFFFFFFFFFEFFFFFC2F

/-- The order of the group. -/
def n : Nat := 0xFFFFFFFFFFFFFFFFFFFFFFFFFFFFFFFEBAAEDCE6AF48A03BBFD25E8CD0364141

/-- The point `(x / z ^ 2, y / z ^ 3)` of the curve `y ^ 2 = x ^ 3 + 7`; the neutral one where `z`
is zero. -/
structure Point where
  x : Nat
  y : Nat
  z : Nat
  deriving DecidableEq

def neutral : Point := ⟨1, 1, 0⟩

def generator : Point :=
  ⟨0x79BE667EF9DCBBAC55A06295CE870B07029BFCDB2DCE28D959F2815B16F81798,
   0x483ADA7726A3C4655DA4FBFC0E1108A8FD17B448A68554199C47D08FFB10D4B8, 1⟩

/-- `base ^ exponent` modulo `m`, by squaring over the `bits` lowest bits of the exponent. -/
def powMod (m : Nat) : (bits : Nat) → (base exponent : Nat) → Nat
  | 0, _, _ => 1 % m
  | k + 1, b, e =>
    let rest := powMod m k (b * b % m) (e / 2)
    if e % 2 = 1 then b * rest % m else rest

/-- The inverse modulo a prime `m` below `2 ^ 256`. -/
def inverse (m a : Nat) : Nat := powMod m 256 (a % m) (m - 2)

/-- `a - b` modulo `p`, for `b` below `p`. -/
def minus (a b : Nat) : Nat := (a + (p - b)) % p

def double (a : Point) : Point :=
  let yy := a.y * a.y % p
  let s := 4 * a.x * yy % p
  let m := 3 * a.x * a.x % p
  let x := minus (m * m) (2 * s % p)
  ⟨x, minus (m * minus s x) (8 * yy * yy % p), 2 * a.y * a.z % p⟩

def add (a b : Point) : Point :=
  if a.z = 0 then b
  else if b.z = 0 then a
  else
    let az := a.z * a.z % p
    let bz := b.z * b.z % p
    let u1 := a.x * bz % p
    let u2 := b.x * az % p
    let s1 := a.y * bz * b.z % p
    let s2 := b.y * az * a.z % p
    if u1 = u2 then if s1 = s2 then double a else neutral
    else
      let h := minus u2 u1
      let r := minus s2 s1
      let hh := h * h % p
      let hhh := hh * h % p
      let v := u1 * hh % p
      let x := minus (r * r) ((hhh + 2 * v) % p)
      ⟨x, minus (r * minus v x) (s1 * hhh % p), h * a.z * b.z % p⟩

/-- `k` times a point, for `k` below `2 ^ bits`. -/
def multiply : (bits k : Nat) → Point → Point
  | 0, _, _ => neutral
  | b + 1, k, a =>
    let rest := multiply b (k / 2) (double a)
    if k % 2 = 1 then add a rest else rest

/-- The coordinates in the plane; the neutral point has none and is given `(0, 0)`. -/
def plane (a : Point) : Nat × Nat :=
  let i := inverse p a.z
  let ii := i * i % p
  (a.x * ii % p, a.y * (ii * i % p) % p)

def publicPoint (secret : Nat) : Nat × Nat := plane (multiply 256 secret generator)

end Devnet.Curve
