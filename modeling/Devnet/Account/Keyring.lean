import Devnet.Account.Address
import Devnet.Check.Error
import Devnet.Curve.Signature
import Devnet.Text.Quoted

namespace Devnet

inductive KeyFault where
  | oddLength
  /-- A byte that is no digit, and its place after the marks in front. -/
  | notADigit (byte : UInt8) (index : Nat)
  | wrongLength
  /-- Zero, or not below the order of the group. -/
  | outOfRange
  deriving DecidableEq

def KeyFault.message : KeyFault → String
  | .oddLength => "odd number of digits"
  | .notADigit b i =>
    s!"invalid character {Text.quotedChar (Char.ofNat b.toNat)} at position {i}"
  | .wrongLength => "invalid string length"
  | .outOfRange => "signature error"

/-- A secret number that has a public point. -/
structure PrivateKey where
  secret : Nat
  pos : 0 < secret
  lt : secret < Curve.n

namespace PrivateKey

/-- `raw` without the white space around it and without one `0x` in front. -/
def normalizeChars (cs : List Char) : List Char := Address.dropMark (Text.trim cs)

def normalize (raw : String) : String := String.ofList (normalizeChars raw.toList)

/-- The bytes without one `0X` in front. -/
def dropCapitalMark : List UInt8 → List UInt8
  | 0x30 :: 0x58 :: bs => bs
  | bs => bs

/-- The bytes without one `0x` or `0X` in front. -/
def dropAnyMark : List UInt8 → List UInt8
  | 0x30 :: 0x78 :: bs => bs
  | bs => dropCapitalMark bs

/-- Digits, or the first byte that is none, counted from `i`. -/
def digits : (i : Nat) → List UInt8 → Except KeyFault (List Nat)
  | _, [] => .ok []
  | i, b :: bs =>
    match Text.hexValue? (Char.ofNat b.toNat) with
    | none => .error (.notADigit b i)
    | some d => (digits (i + 1) bs).map (d :: ·)

def ofBytes (bs : List UInt8) : Except KeyFault PrivateKey :=
  let marked := dropCapitalMark bs
  if marked.length % 2 = 1 then .error .oddLength
  else
    match digits 0 (dropAnyMark marked) with
    | .error e => .error e
    | .ok ds =>
      if ds.length ≠ 64 then .error .wrongLength
      else
        let secret := Text.ofHexDigits ds
        if h : 0 < secret ∧ secret < Curve.n then .ok ⟨secret, h.1, h.2⟩
        else .error .outOfRange

/-- Reads a key with any white space around it and with or without `0x`. -/
def parse (raw : String) : Except KeyFault PrivateKey :=
  ofBytes ((normalizeChars raw.toList).flatMap String.utf8EncodeChar)

/-- The last 20 bytes of the hash of the public point. -/
def address (key : PrivateKey) : Address :=
  let (x, y) := Curve.publicPoint key.secret
  Address.ofBytes ((Hash.Keccak.hash (Curve.bigEndian 32 x ++ Curve.bigEndian 32 y)).drop 12)

theorem parse_congr {a b : String} (h : normalizeChars a.toList = normalizeChars b.toList) :
    parse a = parse b := by
  simp [parse, h]

end PrivateKey

abbrev Keyring := List PrivateKey

namespace Keyring

def readKey (raw : String) : Except CheckError PrivateKey :=
  (PrivateKey.parse raw).mapError fun fault => .invalidPrivateKey fault.message

/-- Reads all keys, up to the first that is none. -/
def ofTexts (texts : List String) : Except CheckError Keyring := texts.mapM readKey

def addresses (ring : Keyring) : List Address := ring.map (·.address)

end Keyring

end Devnet
