import Devnet.Json.Document

namespace Devnet.Json

def depthLimit : Nat := 127

def Doc.start : Doc → Nat
  | .null start _ | .bool _ start _ | .number _ start _ | .string _ start _ | .array _ start
  | .object _ start | .broken _ start => start

/-- How far a text is read when a reader gives up after an item, before `rest`. -/
def Items.resting : Items → Nat
  | .close stop => stop
  | .broken _ lead | .item lead _ _ => lead

/-- How far a text is read when a reader gives up after a member, before `rest`. -/
def Members.resting : Members → Nat
  | .close stop => stop
  | .broken _ lead | .stray _ lead | .keyOnly lead _ _ _ | .member lead _ _ _ _ => lead

/-- What a literal that ends at `stop` stands for. -/
def NumberLiteral.read (l : NumberLiteral) (stop : Nat) : Except Complaint Number :=
  match l.value with
  | .ok n => .ok n
  | .error unread => .error (.fault .numberOutOfRange (stop - unread))

/-- The complaint about something that stands where a key should. -/
def keyComplaint (d : Doc) : Complaint := .fault .keyExpected (d.start + 1)

mutual

/-- The value, if the text is well formed up to its end; `depth` more containers may be opened. -/
def Doc.read : (depth : Nat) → Doc → Except Complaint Json
  | _, .null _ _ => .ok .null
  | _, .bool b _ _ => .ok (.bool b)
  | _, .number l _ stop => (l.read stop).map .number
  | _, .string l _ _ => l.text.map .string
  | 0, .array _ start | 0, .object _ start => .error (.fault .tooDeep (start + 1))
  | depth + 1, .array items _ => (items.read depth).map .array
  | depth + 1, .object members _ => (members.read depth).map .object
  | _, .broken b _ => .error b.whenRead

def Items.read : (depth : Nat) → Items → Except Complaint (List Json)
  | _, .close _ => .ok []
  | _, .broken b _ => .error b.whenRead
  | depth, .item _ d rest => do
    let v ← d.read depth
    return v :: (← rest.read depth)

def Members.read : (depth : Nat) → Members → Except Complaint (List (String × Json))
  | _, .close _ => .ok []
  | _, .broken b _ => .error b.whenRead
  | _, .stray d _ => .error (keyComplaint d)
  | _, .keyOnly _ key _ b => do
    let _ ← key.text
    .error b.whenRead
  | depth, .member _ key _ d rest => do
    let name ← key.text
    let v ← d.read depth
    return (name, v) :: (← rest.read depth)

end

mutual

/-- Passes over a value of any depth: the text must be well formed, but its numbers may be out of
range and its escapes need not pair up. -/
def Doc.skip : Doc → Except Complaint Unit
  | .null _ _ | .bool _ _ _ | .number _ _ _ => .ok ()
  | .string l _ _ => l.skip
  | .array items _ => items.skip
  | .object members _ => members.skip
  | .broken b _ => .error b.whenSkipped

def Items.skip : Items → Except Complaint Unit
  | .close _ => .ok ()
  | .broken b _ => .error b.whenSkipped
  | .item _ d rest => do
    d.skip
    rest.skip

def Members.skip : Members → Except Complaint Unit
  | .close _ => .ok ()
  | .broken b _ => .error b.whenSkipped
  | .stray d _ => .error (keyComplaint d)
  | .keyOnly _ key _ b => do
    key.skip
    .error b.whenSkipped
  | .member _ key _ d rest => do
    key.skip
    d.skip
    rest.skip

end

namespace Doc

/-- The complaint of a reader that wants something else than the value. -/
def refusal (expected : String) (d : Doc) : Complaint :=
  let wrong (f : Found) (place : Nat) : Complaint := ⟨.wrongType f expected, some place⟩
  match d with
  | .null _ stop => wrong .null stop
  | .bool b _ stop => wrong (.bool b) stop
  | .number l _ stop =>
    match l.read stop with
    | .ok n => wrong (.number n) stop
    | .error c => c
  | .string l _ stop =>
    match l.text with
    | .ok s => wrong (.string s) stop
    | .error c => c
  | .array _ start => wrong .array start
  | .object _ start => wrong .object start
  | .broken b _ => b.whenRead

def readNatural (d : Doc) : Except Complaint UInt64 :=
  match d with
  | .number l _ stop => do
    match ← l.read stop with
    | .natural n => return n
    | .negative n => throw ⟨.wrongValue (.number (.negative n)) "u64", some stop⟩
    | .real _ => throw (d.refusal "u64")
  | d => .error (d.refusal "u64")

def readString (expected : String) (d : Doc) : Except Complaint String :=
  match d with
  | .string l _ _ => l.text
  | d => .error (d.refusal expected)

def readVariant {α : Type} (variants : List (String × α)) (d : Doc) : Except Complaint α :=
  match d with
  | .string l _ stop => do
    let name ← l.text
    match variants.lookup name with
    | some v => return v
    | none => throw ⟨.unknownVariant name (variants.map (·.1)), some stop⟩
  | d => .error (d.refusal "variant identifier")

/-- Opens one more container at `start`, if `depth` allows one. -/
def enter {α : Type} (depth start : Nat) (inside : (depth : Nat) → Except Complaint α) :
    Except Complaint α :=
  match depth with
  | 0 => .error (.fault .tooDeep (start + 1))
  | depth + 1 => inside depth

end Doc

/-- Reads a text that holds one value and nothing behind it but blanks. -/
def Source.read {α : Type} (reader : (depth : Nat) → Doc → Except Complaint α) (s : Source) :
    Except Complaint α := do
  let v ← reader depthLimit s.doc
  match s.trailing with
  | none => return v
  | some place => throw (.fault .trailingCharacters (place + 1))

/-- Reads a text; what is wrong with it is put into words. -/
def readText {α : Type} (reader : (depth : Nat) → Doc → Except Complaint α) (text : String) :
    Except String α :=
  ((Source.ofText text).read reader).mapError (Complaint.message text)

end Devnet.Json
