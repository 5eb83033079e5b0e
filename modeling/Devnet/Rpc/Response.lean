import Devnet.Json.Printer
import Devnet.NameTable
import Devnet.Rpc.Record
import Devnet.Text.Quoted

namespace Devnet.Rpc

open Json (Complaint Doc Members FieldReader RecordShape)

structure Refusal where
  code : Int
  message : String
  data : Option Json

def inspectNumber (n : Number) : String := String.ofList (Json.numberChars n)

/-- Rows in the order of their names, the last of each name. -/
def sortRows (rows : List (String × String)) : List (String × String) :=
  (rows.foldl (fun (t : NameTable String) r => t.insert r.1 r.2) NameTable.empty).rows

mutual

def inspectJson : Json → String
  | .null => "Null"
  | .bool b => Text.wrapped "Bool" (if b then "true" else "false")
  | .number n => Text.wrapped "Number" (inspectNumber n)
  | .string s => Text.wrapped "String" (Text.quoted s)
  | .array items => "Array [" ++ ", ".intercalate (inspectItems items) ++ "]"
  | .object members => "Object " ++ Text.table (sortRows (inspectMembers members))

def inspectItems : List Json → List String
  | [] => []
  | v :: vs => inspectJson v :: inspectItems vs

def inspectMembers : List (String × Json) → List (String × String)
  | [] => []
  | (name, v) :: ms => (name, inspectJson v) :: inspectMembers ms

end

def Refusal.text (r : Refusal) : String :=
  let data := match r.data with
    | none => "None"
    | some v => Text.wrapped "Some" (inspectJson v)
  s!"(code: {r.code}, message: {r.message}, data: {data})"

/-- A whole number of 64 bits with a sign. -/
def readInteger (_depth : Nat) (d : Doc) : Except Complaint Int :=
  match d with
  | .number l _ stop => do
    match ← l.read stop with
    | .natural n =>
      if n.toNat < 0x8000000000000000 then return n.toNat
      else throw (complaintAt (.wrongValue (.number (.natural n)) "i64") stop)
    | .negative n => return -n
    | .real _ => throw (d.refusal "i64")
  | d => .error (d.refusal "i64")

def refusalShape : RecordShape (Collected Refusal) Refusal :=
  shapeOf "JsonRpcError" ["code", "message"]
    [stored "code" readInteger fun v r => { r with code := v },
      stored "message" readText fun v r => { r with message := v },
      stored "data" (readOptional Doc.read) fun v r => { r with data := v }]
    ⟨0, "", none⟩

/-- The bytes before the end of an array that is well formed. -/
def itemsStop : Json.Items → Nat
  | .close stop => stop
  | .broken _ lead => lead
  | .item _ _ rest => itemsStop rest

def membersStop : Members → Nat
  | .close stop => stop
  | .broken _ lead | .stray _ lead | .keyOnly lead _ _ _ => lead
  | .member _ _ _ _ rest => membersStop rest

/-- The bytes before the end of a value that is well formed. -/
def docStop : Doc → Nat
  | .null _ stop | .bool _ _ stop | .number _ _ stop | .string _ _ stop => stop
  | .array items _ => itemsStop items
  | .object members _ => membersStop members
  | .broken _ start => start

def dropBytes : (n : Nat) → List Char → List Char
  | 0, cs => cs
  | _, [] => []
  | n + 1, c :: cs => dropBytes (n + 1 - c.utf8Size) cs

def takeBytes : (n : Nat) → List Char → List Char
  | 0, _ => []
  | _, [] => []
  | n + 1, c :: cs => c :: takeBytes (n + 1 - c.utf8Size) cs

def slice (text : String) (start stop : Nat) : String :=
  String.ofList (takeBytes (stop - start) (dropBytes start text.toList))

structure Envelope where
  hasVersion : Bool
  id : Option UInt64
  /-- Where the text of the result stands. -/
  result : Option (Nat × Nat)
  error : Option Refusal
  hasMethod : Bool
  hasParams : Bool

/-- A string that is written without escapes. -/
def readPlain (d : Doc) : Except Complaint String :=
  let expected := "a borrowed string"
  match d with
  | .string l _ stop => do
    let s ← l.text
    if l.pieces.all fun | .plain _ => true | _ => false then return s
    else throw (complaintAt (.wrongType (.string s) expected) stop)
  | d => .error (d.refusal expected)

def memberNames : List String := ["id", "jsonrpc", "result", "error", "params", "method"]

def paramsShape : RecordShape (Collected Unit) Unit :=
  shapeOf "Params" ["subscription", "result"]
    [checked "subscription" readWord256, checked "result" fun _ => Doc.skip] ()

/-- The reader of a member; `none` if it may not come, or not again. -/
def envelopeMember (depth : Nat) (name : String) (e : Envelope) (d : Doc) :
    Except Complaint Envelope := do
  match name with
  | "jsonrpc" =>
    let v ← readPlain d
    if v = "2.0" then return { e with hasVersion := true }
    else throw ⟨.wrongValue (.string v) "2.0", none⟩
  | "id" => return { e with id := some (← d.readNatural) }
  | "result" =>
    d.skip
    return { e with result := some (d.start, docStop d) }
  | "error" => return { e with error := some (← refusalShape.read depth d) }
  | "method" =>
    let _ ← readPlain d
    return { e with hasMethod := true }
  | _ =>
    paramsShape.read depth d
    return { e with hasParams := true }

/-- Why a member of that name may not come. -/
def memberComplaint? (name : String) (e : Envelope) : Option Json.Cause :=
  if !memberNames.contains name then some (.unknownField name memberNames)
  else if (name = "jsonrpc" ∧ e.hasVersion) ∨ (name = "id" ∧ e.id.isSome) ∨
      (name = "result" ∧ e.result.isSome) ∨ (name = "error" ∧ e.error.isSome) then
    some (.duplicateField name)
  else none

def memberName (key : Json.StringLiteral) (after : Nat) : Except Complaint String := do
  let name ← readPlain (.string key key.start (key.last + 1)) |>.mapError fun c =>
    match c.cause with
    | .wrongType .. => complaintAt c.cause after
    | _ => c
  return name

def readEnvelope (depth : Nat) : Envelope → Members → Except Complaint (Envelope × Nat)
  | e, .close stop => .ok (e, stop)
  | _, .broken b _ => .error b.whenRead
  | _, .stray d _ => .error (Json.keyComplaint d)
  | e, .keyOnly _ key after b => do
    let name ← memberName key after
    match memberComplaint? name e with
    | some cause => .error (complaintAt cause after)
    | none => .error b.whenRead
  | e, .member _ key after d rest => do
    let name ← memberName key after
    match memberComplaint? name e with
    | some cause => .error (complaintAt cause after)
    | none =>
      let e ← (envelopeMember depth name e d).mapError (·.placedAt rest.resting)
      readEnvelope depth e rest

inductive Response where
  /-- The place of the result's text. -/
  | success (start stop : Nat)
  | refused (r : Refusal)
  | notification

/-- A response has its version and either an id with a result or an error, or neither. -/
def Envelope.response (e : Envelope) (stop : Nat) : Except Complaint Response :=
  if !e.hasVersion then .error (complaintAt (.missingField "jsonrpc") stop)
  else
    match e.id, e.result, e.error, e.hasMethod, e.hasParams with
    | some _, some (start, last), none, false, false => .ok (.success start last)
    | some _, none, some r, false, false => .ok (.refused r)
    | none, none, none, true, true => .ok .notification
    | _, _, _, _, _ =>
      .error (complaintAt
        (.other "response must be either a success/error or notification object") stop)

def readResponse (depth : Nat) (d : Doc) : Except Complaint Response :=
  match d with
  | .object members start =>
    Doc.enter depth start fun depth => do
      let (e, stop) ← readEnvelope depth ⟨false, none, none, none, false, false⟩ members
      e.response stop
  | d => .error (d.refusal "a valid jsonrpc 2.0 response object")

end Devnet.Rpc
