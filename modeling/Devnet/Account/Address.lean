import Devnet.Hash.Keccak
import Devnet.Text.Blank
import Devnet.Text.Hex
import Devnet.Text.Utf8

namespace Devnet

/-- An account address of 20 bytes. -/
@[ext] structure Address where
  bits : BitVec 160
  deriving DecidableEq

namespace Address

/-- The 40 digits in lower case. -/
def digits (a : Address) : List Char := Text.hexFixed 40 a.bits.toNat

def text (a : Address) : String := String.ofList ('0' :: 'x' :: a.digits)

def bytes (a : Address) : List UInt8 :=
  (List.range 20).reverse.map fun i => UInt8.ofNat (a.bits.toNat >>> (8 * i))

/-- The four-bit halves of bytes, the higher half first. -/
def halves (bs : List UInt8) : List Nat := bs.flatMap fun b => [b.toNat / 16, b.toNat % 16]

/-- A letter is a capital where the hash of the lower-case digits has a half of 8 or more. -/
def checksumDigits (a : Address) : List Char :=
  let hash := Hash.Keccak.hash (a.digits.map fun c => UInt8.ofNat c.toNat)
  List.zipWith (fun c h => if 8 ≤ h then c.toUpper else c) a.digits (halves hash)

def checksumText (a : Address) : String := String.ofList ('0' :: 'x' :: a.checksumDigits)

/-- The blanks that may stand between the digits. -/
def isFiller (c : Char) : Bool := c = ' ' || c = '\t' || c = '\n' || c = '\r'

/-- `cs` without one leading `0x`. -/
def dropMark : List Char → List Char
  | '0' :: 'x' :: cs => cs
  | cs => cs

/-- Reads exactly 40 digits, with or without `0x` in front and fillers between them. -/
def ofChars? (cs : List Char) : Option Address :=
  match ((dropMark cs).filter (!isFiller ·)).mapM Text.hexValue? with
  | none => none
  | some ds => if ds.length = 40 then some ⟨BitVec.ofNat 160 (Text.ofHexDigits ds)⟩ else none

def parse? (raw : String) : Option Address := ofChars? (Text.trim raw.toList)

/-- The address of the last 20 of the given bytes. -/
def ofBytes (bs : List UInt8) : Address :=
  ⟨BitVec.ofNat 160 (bs.foldl (fun n b => 256 * n + b.toNat) 0)⟩

end Address

end Devnet
