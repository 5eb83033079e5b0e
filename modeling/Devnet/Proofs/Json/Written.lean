import Devnet.Json.Document
import Devnet.Proofs.Results

namespace Devnet.Json

inductive Written where
  | null
  | bool (b : Bool)
  /-- `none` is a number beyond the range of binary64. -/
  | number (n : Option Number)
  | string (s : String)
  | array (items : List Written)
  | object (members : List (String × Written))

mutual

/-- The value in writing. -/
def written : Json → Written
  | .null => .null
  | .bool b => .bool b
  | .number n => .number (some n)
  | .string s => .string s
  | .array items => .array (writtenItems items)
  | .object members => .object (writtenMembers members)

def writtenItems : List Json → List Written
  | [] => []
  | v :: vs => v.written :: writtenItems vs

def writtenMembers : List (String × Json) → List (String × Written)
  | [] => []
  | (name, v) :: ms => (name, v.written) :: writtenMembers ms

end

mutual

/-- The tree stands for the value, wherever its parts stand. -/
def Doc.Holds : Doc → Written → Prop
  | .null _ _, .null => True
  | .bool b _ _, .bool c => b = c
  | .number l _ _, .number n => l.value.toOption = n
  | .string l _ _, .string s => l.text = .ok s
  | .array items _, .array vs => items.Holds vs
  | .object members _, .object ms => members.Holds ms
  | _, _ => False

def Items.Holds : Items → List Written → Prop
  | .close _, [] => True
  | .item _ d rest, v :: vs => d.Holds v ∧ rest.Holds vs
  | _, _ => False

def Members.Holds : Members → List (String × Written) → Prop
  | .close _, [] => True
  | .member _ key _ d rest, (name, v) :: ms => key.text = .ok name ∧ d.Holds v ∧ rest.Holds ms
  | _, _ => False

end

/-- The tree holds a value that can be read. -/
def Doc.Shows (d : Doc) (v : Json) : Prop := d.Holds v.written

def Items.Shows (items : Items) (vs : List Json) : Prop := items.Holds (writtenItems vs)

def Members.Shows (members : Members) (ms : List (String × Json)) : Prop :=
  members.Holds (writtenMembers ms)

end Devnet.Json
