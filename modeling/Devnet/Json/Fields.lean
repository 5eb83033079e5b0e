import Devnet.Json.Reading

namespace Devnet.Json

structure FieldReader (σ : Type) where
  name : String
  isSet : σ → Bool
  read : (depth : Nat) → Doc → σ → Except Complaint σ

def fieldOf? {σ : Type} (fields : List (FieldReader σ)) (name : String) : Option (FieldReader σ) :=
  fields.find? fun f => f.name = name

def duplicate (name : String) (place : Nat) : Complaint := ⟨.duplicateField name, some place⟩

/-- The complaint about a key that comes with no value. -/
def loneKeyComplaint {σ : Type} (fields : List (FieldReader σ)) (s : σ) (name : String)
    (after : Nat) (b : Break) : Complaint :=
  match fieldOf? fields name with
  | some f => if f.isSet s then duplicate name after else b.whenRead
  | none => b.whenRead

/-- Collects the members into `s`; also where the object ends. -/
def Members.readFields {σ : Type} (fields : List (FieldReader σ)) (depth : Nat) :
    (s : σ) → Members → Except Complaint (σ × Nat)
  | s, .close stop => .ok (s, stop)
  | _, .broken b _ => .error b.whenRead
  | _, .stray d _ => .error (keyComplaint d)
  | s, .keyOnly _ key after b => do
    let name ← key.text
    .error (loneKeyComplaint fields s name after b)
  | s, .member _ key after d rest => do
    let name ← key.text
    match fieldOf? fields name with
    | none =>
      d.skip
      rest.readFields fields depth s
    | some f =>
      if f.isSet s then .error (duplicate name after)
      else
        let s ← (f.read depth d s).mapError (·.placedAt rest.resting)
        rest.readFields fields depth s

/-- What is wrong with an array that goes on after all fields are read. -/
def Items.surplus : Items → Except Complaint Nat
  | .close stop => .ok stop
  | .item lead _ _ => .error (.fault .trailingCharacters (lead + 1))
  | .broken (.commaBeforeBracket place) _ => .error (.fault .trailingComma place)
  | .broken (.fault .endInArray place) _ => .error (.fault .endInArray place)
  | .broken (.fault _ place) _ => .error (.fault .trailingCharacters place)
  | .broken b _ => .error b.whenRead

/-- Collects the items into `s`, one for each field as long as there are any; also how many they
are and where the array ends. -/
def Items.readFields {σ : Type} (depth : Nat) :
    (fields : List (FieldReader σ)) → (s : σ) → Items → Except Complaint (σ × Nat × Nat)
  | [], s, rest => rest.surplus.map fun stop => (s, 0, stop)
  | _ :: _, s, .close stop => .ok (s, 0, stop)
  | _ :: _, _, .broken b _ => .error b.whenRead
  | f :: fields, s, .item _ d rest => do
    let s ← (f.read depth d s).mapError (·.placedAt rest.resting)
    let (s, count, stop) ← rest.readFields depth fields s
    return (s, count + 1, stop)

/-- A record: its fields, and the whole made of what was collected, or the name of the field that
is missed. -/
structure RecordShape (σ α : Type) where
  name : String
  fields : List (FieldReader σ)
  empty : σ
  finish : σ → Except String α

/-- Reads a record; in an array the fields come in their order. Members of other names are passed
over, and a name that comes twice is refused. -/
def RecordShape.read {σ α : Type} (shape : RecordShape σ α) (depth : Nat) (d : Doc) :
    Except Complaint α :=
  match d with
  | .object members start =>
    Doc.enter depth start fun depth => do
      let (s, stop) ← members.readFields shape.fields depth shape.empty
      (shape.finish s).mapError fun name => ⟨.missingField name, some stop⟩
  | .array items start =>
    Doc.enter depth start fun depth => do
      let (s, count, stop) ← items.readFields depth shape.fields shape.empty
      let whole := s!"struct {shape.name} with {shape.fields.length} elements"
      (shape.finish s).mapError fun _ => ⟨.wrongLength count whole, some stop⟩
  | d => .error (d.refusal s!"struct {shape.name}")

/-- Reads an object of any names, each value with the same reader, and folds it in order. -/
def Members.readTable {α τ : Type} (reader : (depth : Nat) → Doc → Except Complaint α)
    (insert : String → α → τ → τ) (depth : Nat) : (t : τ) → Members → Except Complaint τ
  | t, .close _ => .ok t
  | _, .broken b _ => .error b.whenRead
  | _, .stray d _ => .error (keyComplaint d)
  | _, .keyOnly _ key _ b => do
    let _ ← key.text
    .error b.whenRead
  | t, .member _ key _ d rest => do
    let name ← key.text
    let v ← (reader depth d).mapError (·.placedAt rest.resting)
    rest.readTable reader insert depth (insert name v t)

end Devnet.Json
