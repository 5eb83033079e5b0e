import Devnet.Check.Error
import Devnet.Environment
import Devnet.Json.Printer
import Devnet.Json.Reading

namespace Devnet

inductive AccountSource where
  /-- The node holds the keys and signs. -/
  | node
  | keys (privateKeys : List String)
  /-- The environment variables that hold private keys. -/
  | env (names : List String)
  deriving DecidableEq

namespace AccountSource

/-- The keys for signing locally, `none` where the node signs; each variable must hold text. -/
def privateKeys (env : Environment) : AccountSource → Except CheckError (Option (List String))
  | .node => .ok none
  | .keys privateKeys => .ok (some privateKeys)
  | .env names => do
    let privateKeys ← names.mapM fun name =>
      match env.text? name with
      | some key => .ok key
      | none => .error (CheckError.missingPrivateKey name)
    return some privateKeys

def inspect : AccountSource → String
  | .node => "Node"
  | .keys privateKeys => Text.wrapped "Keys" s!"{privateKeys.length} keys"
  | .env names => Text.record "Env" [("vars", Text.quotedList names)]

def toJson : AccountSource → Json
  | .node => .object [("source", .string "node")]
  | .keys privateKeys =>
    .object [("source", .string "keys"), ("private_keys", .array (privateKeys.map .string))]
  | .env names => .object [("source", .string "env"), ("vars", .array (names.map .string))]

inductive Listed where
  | keys
  | env
  deriving DecidableEq

namespace Listed

def listName : Listed → String
  | .keys => "private_keys"
  | .env => "vars"

def build : Listed → List String → AccountSource
  | .keys, texts => AccountSource.keys texts
  | .env, texts => AccountSource.env texts

def inspect : Listed → String
  | .keys => "Keys"
  | .env => "Env"

end Listed

/-- The kinds of source, the one without a list and the others. -/
inductive Kind where
  | bare
  | listed (l : Listed)
  deriving DecidableEq

def Kind.variants : List (String × Kind) :=
  [("node", .bare), ("keys", .listed .keys), ("env", .listed .env)]

open Json (Complaint Doc Items Members)

/-- The value was read whole, so its complaints have no place. -/
def complaint (cause : Json.Cause) : Complaint := ⟨cause, none⟩

def textsOf : Json → Except Complaint (List String)
  | .array items => items.mapM fun
    | .string s => .ok s
    | v => .error (complaint (.wrongType (Json.found v) "a string"))
  | v => .error (complaint (.wrongType (Json.found v) "a sequence"))

/-- The list among the members beside the tag; it may come once. -/
def listOf (name : String) (members : List (String × Json)) : Except Complaint (List String) :=
  go none members
where
  go : (seen : Option (List String)) → List (String × Json) → Except Complaint (List String)
    | some texts, [] => .ok texts
    | none, [] => .error (complaint (.missingField name))
    | seen, (n, v) :: rest =>
      if n = name then
        if seen.isSome then .error (complaint (.duplicateField name))
        else (textsOf v).bind fun texts => go (some texts) rest
      else go seen rest

/-- A source of a known kind whose other members are given by name. -/
def ofMembers (kind : Kind) (members : List (String × Json)) : Except Complaint AccountSource :=
  match kind with
  | .bare => .ok .node
  | .listed l => (listOf l.listName members).map l.build

/-- A source of a known kind whose other parts are given in order. -/
def ofItems (kind : Kind) (items : List Json) : Except Complaint AccountSource :=
  let tooLong (expected : String) : Complaint := complaint (.wrongLength items.length expected)
  match kind, items with
  | .bare, [] => .ok .node
  | .bare, _ => .error (tooLong "0 elements in sequence")
  | .listed l, [] =>
    .error (tooLong s!"struct variant AccountSource::{l.inspect} with 1 element")
  | .listed l, v :: rest => do
    let texts ← textsOf v
    if rest.isEmpty then return l.build texts
    else throw (tooLong "1 element in sequence")

def tagName : String := "source"

/-- Splits off the tag, which must come exactly once; every other member is read whole. -/
def readMembers (depth : Nat) : (tag : Option Kind) → Members →
    Except Complaint (Kind × List (String × Json))
  | some kind, .close _ => .ok (kind, [])
  | none, .close stop => .error ⟨.missingField tagName, some stop⟩
  | _, .broken b _ => .error b.whenRead
  | _, .stray d _ => .error (Json.keyComplaint d)
  | tag, .keyOnly _ key after b => do
    let name ← key.text
    if name = tagName ∧ tag.isSome then .error ⟨.duplicateField tagName, some after⟩
    else .error b.whenRead
  | tag, .member _ key after d rest => do
    let name ← key.text
    if name = tagName then
      if tag.isSome then .error ⟨.duplicateField tagName, some after⟩
      else
        let kind ← d.readVariant Kind.variants
        readMembers depth (some kind) rest
    else
      let v ← d.read depth
      let (kind, members) ← readMembers depth tag rest
      return (kind, (name, v) :: members)

/-- In an array the kind comes first. -/
def readItems (depth : Nat) : Items → Except Complaint (Kind × List Json)
  | .close stop => .error ⟨.missingField tagName, some stop⟩
  | .broken b _ => .error b.whenRead
  | .item _ d rest => do
    let kind ← d.readVariant Kind.variants
    return (kind, ← rest.read depth)

def read (depth : Nat) (d : Doc) : Except Complaint AccountSource :=
  match d with
  | .object members start =>
    Doc.enter depth start fun depth => do
      let (kind, members) ← readMembers depth none members
      ofMembers kind members
  | .array items start =>
    Doc.enter depth start fun depth => do
      let (kind, items) ← readItems depth items
      ofItems kind items
  | d => .error (d.refusal "internally tagged enum AccountSource")

end AccountSource

end Devnet
