import Devnet.Json.Fields
import Devnet.Transfer

namespace Devnet.Rpc

open Json (Complaint Doc Items)

/-- A number as text, without leading zeros. -/
def quantity (n : Nat) : Json := .string (String.ofList ('0' :: 'x' :: Text.hexPlain n))

def complaintAt (cause : Json.Cause) (place : Nat) : Complaint := ⟨cause, some place⟩

/-- Digits from the byte with number `i` on; blanks between them do not count. -/
def hexDigits (place : Nat) : (i : Nat) → List UInt8 → Except Complaint (List Nat)
  | _, [] => .ok []
  | i, b :: bs =>
    let c := Char.ofNat b.toNat
    match Text.hexValue? c with
    | some d => (hexDigits place (i + 1) bs).map (d :: ·)
    | none =>
      if Address.isFiller c then hexDigits place (i + 1) bs
      else
        .error (complaintAt (.other s!"invalid hex character: {String.singleton c}, at {i}") place)

inductive Width where
  | exactly (bytes : Nat)
  /-- At least one digit and at most so many bytes. -/
  | upTo (bytes : Nat)

def Width.text : Width → String
  | exactly n => s!"{n} bytes"
  | upTo n => s!"between (0; {n}] bytes"

def Width.allows (w : Width) (length : Nat) : Bool :=
  match w with
  | exactly n => length = 2 * n
  | upTo n => 0 < length && length ≤ 2 * n

/-- The bytes that a text spells, an odd first digit alone, as their number and count. -/
def readBytes (width : Width) (d : Doc) : Except Complaint (Nat × Nat) := do
  let expected :=
    s!"a (both 0x-prefixed or not) hex string or byte array containing {width.text}"
  match d with
  | .string l _ stop =>
    let bytes := (← l.text).toList.flatMap String.utf8EncodeChar
    let (digits, mark) := match bytes with
      | 0x30 :: 0x78 :: rest => (rest, 2)
      | rest => (rest, 0)
    if width.allows digits.length then
      let ds ← hexDigits stop mark digits
      let ds := if (digits.length + ds.length) % 2 = 0 then ds else ds.dropLast
      return (Text.ofHexDigits ds, (ds.length + 1) / 2)
    else throw (complaintAt (.wrongLength digits.length expected) stop)
  | d => throw (d.refusal expected)

def readNumber (bytes : Nat) (d : Doc) : Except Complaint Nat :=
  (readBytes (.upTo bytes) d).map (·.1)

def readWord256 (_depth : Nat) (d : Doc) : Except Complaint Word256 :=
  (readNumber 32 d).map (BitVec.ofNat 256)

def readWord64 (_depth : Nat) (d : Doc) : Except Complaint UInt64 :=
  (readNumber 8 d).map UInt64.ofNat

/-- A value of exactly so many bytes; bytes that blanks take the place of are zeros at the end. -/
def readFixed (bytes : Nat) (d : Doc) : Except Complaint Nat :=
  (readBytes (.exactly bytes) d).map fun (n, count) => n <<< (8 * (bytes - count))

def readHash (_depth : Nat) (d : Doc) : Except Complaint TxHash :=
  (readFixed 32 d).map fun n => ⟨BitVec.ofNat 256 n⟩

def readAddress (_depth : Nat) (d : Doc) : Except Complaint Address :=
  (readFixed 20 d).map fun n => ⟨BitVec.ofNat 160 n⟩

def readOptional {α : Type} (reader : (depth : Nat) → Doc → Except Complaint α) (depth : Nat)
    (d : Doc) : Except Complaint (Option α) :=
  match d with
  | .null _ _ => .ok none
  | d => (reader depth d).map some

def readItems {α : Type} (reader : (depth : Nat) → Doc → Except Complaint α) (depth : Nat) :
    Items → Except Complaint (List α)
  | .close _ => .ok []
  | .broken b _ => .error b.whenRead
  | .item _ d rest => do
    let v ← (reader depth d).mapError (·.placedAt rest.resting)
    return v :: (← readItems reader depth rest)

def readList {α : Type} (reader : (depth : Nat) → Doc → Except Complaint α) (depth : Nat)
    (d : Doc) : Except Complaint (List α) :=
  match d with
  | .array items start => Doc.enter depth start fun depth => readItems reader depth items
  | d => .error (d.refusal "a sequence")

end Devnet.Rpc
