import Devnet.Check.Error
import Devnet.Log

namespace Devnet

inductive Query where
  | chainId
  /-- The accounts that can sign. -/
  | accounts
  | send (intent : TransferIntent)
  /-- The receipt of a transaction, if it is included. -/
  | receipt (hash : TxHash)
  /-- The balance at the latest block. -/
  | balance (account : Address)
  /-- The transaction, if the network knows it. -/
  | transaction (hash : TxHash)
  deriving DecidableEq

abbrev Query.Answer : Query → Type
  | chainId => UInt64
  | accounts => List Address
  | send _ => TxHash
  | receipt _ => Option Receipt
  | balance _ => Word256
  | transaction _ => Option TransactionRecord

/-- An answer or an error, what is noted on the way, and how long it takes. -/
structure Reply (α : Type) where
  result : Except CheckError α
  delay : Nat
  log : List LogLine

/-- A network whose memory is `σ`. -/
structure Client (σ : Type) where
  reply : (q : Query) → σ → Reply q.Answer × σ

/-- A question that was asked; without an answer if nobody waited for it. -/
structure Call where
  start : Nat
  query : Query
  answer : Option (Except CheckError query.Answer)

/-- A conversation. The time is counted in milliseconds, and passes only while an answer is awaited
or a poll is due. -/
structure Session (σ : Type) where
  memory : σ
  now : Nat
  calls : Array Call
  log : Array LogLine

namespace Session

def start {σ : Type} (memory : σ) : Session σ := ⟨memory, 0, #[], #[]⟩

/-- The same conversation with nothing recorded yet. -/
def fresh {σ : Type} (s : Session σ) : Session σ := { s with calls := #[], log := #[] }

def movedTo {σ : Type} (s : Session σ) (now : Nat) : Session σ := { s with now }

def noted {σ : Type} (s : Session σ) (l : LogLine) : Session σ := { s with log := s.log.push l }

/-- Asks at the present time and waits for the answer. -/
def ask {σ : Type} (client : Client σ) (q : Query) (s : Session σ) :
    Except CheckError q.Answer × Session σ :=
  let (r, memory) := client.reply q s.memory
  (r.result, ⟨memory, s.now + r.delay, s.calls.push ⟨s.now, q, some r.result⟩,
    s.log ++ r.log.toArray⟩)

end Session

/-- Steps of a conversation, up to the first error. -/
abbrev Action (σ α : Type) := ExceptT CheckError (StateM (Session σ)) α

namespace Action

def ask {σ : Type} (client : Client σ) (q : Query) : Action σ q.Answer :=
  ExceptT.mk (Session.ask client q)

def note {σ : Type} (l : LogLine) : Action σ Unit := modify (·.noted l)

end Action

end Devnet
