import Devnet.Account.Fixture
import Devnet.Json.Printer
import Devnet.Json.Reading

namespace Devnet.Role

open Json (Complaint Doc Members)

def variants : List (String × Role) := [(whale.name, whale), (user.name, user)]

def toJson (r : Role) : Json := .string r.name

/-- The role that a key names; the key ends before the byte at `stop`. -/
def ofKey (key : Json.StringLiteral) : Except Complaint Role :=
  Doc.readVariant variants (.string key key.start (key.last + 1))

/-- After the member the object must end. -/
def closing : Members → Except Complaint Unit
  | .close _ => .ok ()
  | .broken (.fault .endInObject place) _ => .error (.fault .endInObject place)
  | rest => .error (.fault .valueExpected rest.resting)

/-- The value beside the name must be null. -/
def readUnit (d : Doc) : Except Complaint Unit :=
  match d with
  | .null _ _ => .ok ()
  | d => .error (d.refusal "unit")

def ofMembers : Members → Except Complaint Role
  | .close stop => .error (.fault .valueExpected stop)
  | .broken (.fault .endInObject place) _ => .error (.fault .endInValue place)
  | .broken b _ => .error b.whenRead
  | .stray d _ => .error (d.refusal "variant identifier")
  | .keyOnly _ key _ b => do
    let _ ← ofKey key
    .error b.whenRead
  | .member _ key _ d rest => do
    let role ← ofKey key
    readUnit d
    closing rest
    return role

def read (depth : Nat) (d : Doc) : Except Complaint Role :=
  match d with
  | .string _ _ _ => d.readVariant variants
  | .object members start => Doc.enter depth start fun _ => ofMembers members
  | .broken (.fault .endInValue place) start =>
    if place = start then .error (.fault .endInValue place)
    else .error (.fault .valueExpected (start + 1))
  | d => .error (.fault .valueExpected (d.start + 1))

end Devnet.Role
