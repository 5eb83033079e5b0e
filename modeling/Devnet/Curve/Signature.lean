import Devnet.Curve.Secp256k1
import Devnet.Hash.Sha256

namespace Devnet.Curve

/-- A signature, with the parity that tells the signer's public point. -/
structure Signature where
  odd : Bool
  r : Nat
  s : Nat
  deriving DecidableEq

/-- The `width` last bytes of `v`, the highest first. -/
def bigEndian (width v : Nat) : List UInt8 :=
  (List.range width).reverse.map fun i => UInt8.ofNat (v >>> (8 * i))

def ofBigEndian (bytes : List UInt8) : Nat := bytes.foldl (fun v b => 256 * v + b.toNat) 0

/-- The state of the generator of one-time numbers: a key and a value. -/
structure Stream where
  key : List UInt8
  value : List UInt8

/-- Mixes `seed` into the state, marked with `tag`. -/
def Stream.mix (g : Stream) (tag : UInt8) (seed : List UInt8) : Stream :=
  let key := Hash.Sha256.keyed g.key (g.value ++ tag :: seed)
  ⟨key, Hash.Sha256.keyed key g.value⟩

def Stream.start (seed : List UInt8) : Stream :=
  let blank : Stream := ⟨List.replicate 32 0, List.replicate 32 1⟩
  (blank.mix 0 seed).mix 1 seed

/-- The first number of the stream that lies between 1 and `n - 1`, among the first `tries`. -/
def Stream.draw? : (tries : Nat) → Stream → Option Nat
  | 0, _ => none
  | t + 1, g =>
    let value := Hash.Sha256.keyed g.key g.value
    let k := ofBigEndian value
    if 0 < k ∧ k < n then some k else draw? t (Stream.mix ⟨g.key, value⟩ 0 [])

/-- How many numbers are tried. Each misses the range with a chance below `2 ^ -127`. -/
def tries : Nat := 16

/-- The signature with the one-time number `k`, unless one of its parts is zero. -/
def signWith? (secret digest k : Nat) : Option Signature :=
  let (x, y) := publicPoint k
  let r := x % n
  let s := inverse n k * ((digest + r * secret) % n) % n
  if r = 0 ∨ s = 0 then none
  else if n / 2 < s then some ⟨y % 2 = 0, r, n - s⟩
  else some ⟨y % 2 = 1, r, s⟩

/-- The one-time number is derived from the secret and the digest, so that the same secret signs the
same digest in one way only. -/
def sign? (secret digest : Nat) : Option Signature := do
  let seed := bigEndian 32 secret ++ bigEndian 32 (digest % n)
  let k ← (Stream.start seed).draw? tries
  signWith? secret (digest % n) k

end Devnet.Curve
