import Devnet.Client

namespace Devnet

structure Cue (α : Type) where
  result : Except CheckError α
  delay : Nat

/-- The replies still to come for every kind of question. -/
structure Script where
  chainId : List (Cue UInt64)
  accounts : List (Cue (List Address))
  send : List (Cue TxHash)
  receipt : List (Cue (Option Receipt))
  balance : List (Cue Word256)
  transaction : List (Cue (Option TransactionRecord))

namespace Script

def empty : Script := ⟨[], [], [], [], [], []⟩

def kindName : Query → String
  | .chainId => "chain_id"
  | .accounts => "wallet_accounts"
  | .send _ => "send_transfer"
  | .receipt _ => "transaction_receipt"
  | .balance _ => "balance"
  | .transaction _ => "transaction"

/-- The next reply and those after it; a question of a kind without replies fails. -/
def next {α : Type} (kind : String) : List (Cue α) → Reply α × List (Cue α)
  | [] => (⟨.error (.rpcCall s!"unscripted {kind}"), 0, []⟩, [])
  | [c] => (⟨c.result, c.delay, []⟩, [c])
  | c :: d :: cues => (⟨c.result, c.delay, []⟩, d :: cues)

def reply (q : Query) (s : Script) : Reply q.Answer × Script :=
  match q with
  | .chainId =>
    let (r, rest) := next (kindName q) s.chainId
    (r, { s with chainId := rest })
  | .accounts =>
    let (r, rest) := next (kindName q) s.accounts
    (r, { s with accounts := rest })
  | .send _ =>
    let (r, rest) := next (kindName q) s.send
    (r, { s with send := rest })
  | .receipt _ =>
    let (r, rest) := next (kindName q) s.receipt
    (r, { s with receipt := rest })
  | .balance _ =>
    let (r, rest) := next (kindName q) s.balance
    (r, { s with balance := rest })
  | .transaction _ =>
    let (r, rest) := next (kindName q) s.transaction
    (r, { s with transaction := rest })

def client : Client Script := ⟨reply⟩

end Script

end Devnet
