namespace Devnet.Hash.Keccak

/-- Lanes of 64 bits; lane `x + 5 * y` stands in column `x` of row `y`. -/
abbrev State := List UInt64

def lane (s : State) (i : Nat) : UInt64 := s.getD i 0

def ofLanes (f : Nat → UInt64) : State := (List.range 25).map f

/-- Rotation to the left by `n` places, for `n` below 64. -/
def rotate (v : UInt64) (n : Nat) : UInt64 :=
  if n = 0 then v else (v <<< UInt64.ofNat n) ||| (v >>> UInt64.ofNat (64 - n))

def offsets : List Nat :=
  [0, 1, 62, 28, 27, 36, 44, 6, 55, 20, 3, 10, 43, 25, 39, 41, 45, 15, 21, 8, 18, 2, 61, 56, 14]

def roundConstants : List UInt64 :=
  [0x0000000000000001, 0x0000000000008082, 0x800000000000808A, 0x8000000080008000,
   0x000000000000808B, 0x0000000080000001, 0x8000000080008081, 0x8000000000008009,
   0x000000000000008A, 0x0000000000000088, 0x0000000080008009, 0x000000008000000A,
   0x000000008000808B, 0x800000000000008B, 0x8000000000008089, 0x8000000000008003,
   0x8000000000008002, 0x8000000000000080, 0x000000000000800A, 0x800000008000000A,
   0x8000000080008081, 0x8000000000008080, 0x0000000080000001, 0x8000000080008008]

/-- Mixes every lane with the parity of two columns. -/
def theta (s : State) : State :=
  let parity (x : Nat) : UInt64 :=
    lane s x ^^^ lane s (x + 5) ^^^ lane s (x + 10) ^^^ lane s (x + 15) ^^^ lane s (x + 20)
  let columns := (List.range 5).map parity
  ofLanes fun i =>
    lane s i ^^^ columns.getD ((i + 4) % 5) 0 ^^^ rotate (columns.getD ((i + 1) % 5) 0) 1

/-- Rotates the lanes and moves them to their new places. -/
def rhoPi (s : State) : State :=
  let rotated := ofLanes fun i => rotate (lane s i) (offsets.getD i 0)
  ofLanes fun i =>
    let x := i % 5
    let y := i / 5
    lane rotated ((x + 3 * y) % 5 + 5 * x)

/-- Mixes every lane with the two to its right. -/
def chi (s : State) : State :=
  ofLanes fun i =>
    let row := 5 * (i / 5)
    lane s i ^^^ ((~~~ lane s ((i + 1) % 5 + row)) &&& lane s ((i + 2) % 5 + row))

def round (s : State) (constant : UInt64) : State :=
  let t := chi (rhoPi (theta s))
  t.set 0 (lane t 0 ^^^ constant)

def permute (s : State) : State := roundConstants.foldl round s

def rate : Nat := 136

/-- The bytes, lowest first, as a number. -/
def littleEndian (bytes : List UInt8) : UInt64 :=
  bytes.foldr (fun b n => n <<< 8 ||| b.toUInt64) 0

def littleEndianBytes (v : UInt64) : List UInt8 :=
  (List.range 8).map fun i => (v >>> UInt64.ofNat (8 * i)).toUInt8

def absorbBlock (s : State) (block : List UInt8) : State :=
  permute (ofLanes fun i => lane s i ^^^ littleEndian ((block.drop (8 * i)).take 8))

def absorb : (blocks : Nat) → State → List UInt8 → State
  | 0, s, _ => s
  | n + 1, s, bytes => absorb n (absorbBlock s (bytes.take rate)) (bytes.drop rate)

/-- The message filled up to whole blocks. -/
def pad (message : List UInt8) : List UInt8 :=
  let missing := rate - message.length % rate
  if missing = 1 then message ++ [0x81]
  else message ++ 0x01 :: (List.replicate (missing - 2) 0 ++ [0x80])

def hash (message : List UInt8) : List UInt8 :=
  let padded := pad message
  let s := absorb (padded.length / rate) (ofLanes fun _ => 0) padded
  (List.range 4).flatMap fun i => littleEndianBytes (lane s i)

end Devnet.Hash.Keccak
