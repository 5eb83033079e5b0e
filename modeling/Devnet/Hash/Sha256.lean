namespace Devnet.Hash.Sha256

def initial : List UInt32 :=
  [0x6A09E667, 0xBB67AE85, 0x3C6EF372, 0xA54FF53A, 0x510E527F, 0x9B05688C, 0x1F83D9AB, 0x5BE0CD19]

def roundConstants : List UInt32 :=
  [0x428A2F98, 0x71374491, 0xB5C0FBCF, 0xE9B5DBA5, 0x3956C25B, 0x59F111F1, 0x923F82A4, 0xAB1C5ED5,
   0xD807AA98, 0x12835B01, 0x243185BE, 0x550C7DC3, 0x72BE5D74, 0x80DEB1FE, 0x9BDC06A7, 0xC19BF174,
   0xE49B69C1, 0xEFBE4786, 0x0FC19DC6, 0x240CA1CC, 0x2DE92C6F, 0x4A7484AA, 0x5CB0A9DC, 0x76F988DA,
   0x983E5152, 0xA831C66D, 0xB00327C8, 0xBF597FC7, 0xC6E00BF3, 0xD5A79147, 0x06CA6351, 0x14292967,
   0x27B70A85, 0x2E1B2138, 0x4D2C6DFC, 0x53380D13, 0x650A7354, 0x766A0ABB, 0x81C2C92E, 0x92722C85,
   0xA2BFE8A1, 0xA81A664B, 0xC24B8B70, 0xC76C51A3, 0xD192E819, 0xD6990624, 0xF40E3585, 0x106AA070,
   0x19A4C116, 0x1E376C08, 0x2748774C, 0x34B0BCB5, 0x391C0CB3, 0x4ED8AA4A, 0x5B9CCA4F, 0x682E6FF3,
   0x748F82EE, 0x78A5636F, 0x84C87814, 0x8CC70208, 0x90BEFFFA, 0xA4506CEB, 0xBEF9A3F7, 0xC67178F2]

/-- Rotation to the right by `n` places, for `n` from 1 to 31. -/
def rotate (v : UInt32) (n : Nat) : UInt32 :=
  (v >>> UInt32.ofNat n) ||| (v <<< UInt32.ofNat (32 - n))

def bigEndian (bytes : List UInt8) : UInt32 :=
  bytes.foldl (fun n b => n <<< 8 ||| b.toUInt32) 0

def bigEndianBytes (v : UInt32) : List UInt8 :=
  ([24, 16, 8, 0] : List UInt32).map fun i => (v >>> i).toUInt8

/-- The word that follows on sixteen words. -/
def nextWord (w : List UInt32) : UInt32 :=
  let a := w.getD 1 0
  let b := w.getD 14 0
  let s0 := rotate a 7 ^^^ rotate a 18 ^^^ (a >>> 3)
  let s1 := rotate b 17 ^^^ rotate b 19 ^^^ (b >>> 10)
  w.getD 0 0 + s0 + w.getD 9 0 + s1

/-- So many words, from the sixteen that are next. -/
def extend : (count : Nat) → List UInt32 → List UInt32
  | 0, _ => []
  | n + 1, w => w.headD 0 :: extend n (w.tail ++ [nextWord w])

/-- The 64 words of a block, which begin with its own sixteen. -/
def schedule (block : List UInt8) : List UInt32 :=
  extend 64 ((List.range 16).map fun i => bigEndian ((block.drop (4 * i)).take 4))

structure Registers where
  a : UInt32
  b : UInt32
  c : UInt32
  d : UInt32
  e : UInt32
  f : UInt32
  g : UInt32
  h : UInt32

def step (r : Registers) (word : UInt32) : Registers :=
  let s1 := rotate r.e 6 ^^^ rotate r.e 11 ^^^ rotate r.e 25
  let choice := (r.e &&& r.f) ^^^ ((~~~ r.e) &&& r.g)
  let t1 := r.h + s1 + choice + word
  let s0 := rotate r.a 2 ^^^ rotate r.a 13 ^^^ rotate r.a 22
  let majority := (r.a &&& r.b) ^^^ (r.a &&& r.c) ^^^ (r.b &&& r.c)
  ⟨t1 + (s0 + majority), r.a, r.b, r.c, r.d + t1, r.e, r.f, r.g⟩

def compress (state : List UInt32) (block : List UInt8) : List UInt32 :=
  let words := List.zipWith (· + ·) roundConstants (schedule block)
  let old (i : Nat) : UInt32 := state.getD i 0
  let r := words.foldl step ⟨old 0, old 1, old 2, old 3, old 4, old 5, old 6, old 7⟩
  List.zipWith (· + ·) state [r.a, r.b, r.c, r.d, r.e, r.f, r.g, r.h]

def absorb : (blocks : Nat) → List UInt32 → List UInt8 → List UInt32
  | 0, s, _ => s
  | n + 1, s, bytes => absorb n (compress s (bytes.take 64)) (bytes.drop 64)

/-- The message, a one bit, zeros and the length in bits, in whole blocks. -/
def pad (message : List UInt8) : List UInt8 :=
  let bits := 8 * message.length
  let zeros := (119 - message.length % 64) % 64
  let length := (List.range 8).reverse.map fun i => UInt8.ofNat (bits >>> (8 * i))
  message ++ 0x80 :: (List.replicate zeros 0 ++ length)

def hash (message : List UInt8) : List UInt8 :=
  let padded := pad message
  (absorb (padded.length / 64) initial padded).flatMap bigEndianBytes

def keyed (key message : List UInt8) : List UInt8 :=
  let short := if key.length ≤ 64 then key else hash key
  let full := short ++ List.replicate (64 - short.length) 0
  hash (full.map (· ^^^ 0x5C) ++ hash (full.map (· ^^^ 0x36) ++ message))

end Devnet.Hash.Sha256
