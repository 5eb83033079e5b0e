import Devnet.Account.Address

namespace Devnet

inductive Role where
  /-- Heavily funded from the start. -/
  | whale
  /-- Funded like anyone else. -/
  | user
  deriving DecidableEq

def Role.name : Role → String
  | .whale => "whale"
  | .user => "user"

structure Account where
  role : Role
  address : Address
  deriving DecidableEq

def Account.text (a : Account) : String := s!"{a.role.name} ({a.address.checksumText})"

/-- The addresses expected of the two accounts. -/
@[ext] structure Fixture where
  whale : Address
  user : Address
  deriving DecidableEq

namespace Fixture

def address (f : Fixture) : Role → Address
  | .whale => f.whale
  | .user => f.user

def account (f : Fixture) (r : Role) : Account := ⟨r, f.address r⟩

/-- The accounts in the order a network must list them. -/
def accounts (f : Fixture) : List Account := [f.account .whale, f.account .user]

end Fixture

end Devnet
