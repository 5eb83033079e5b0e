import Devnet.Account.Fixture
import Devnet.Duration

namespace Devnet

/-- Amounts of wei and of gas: unsigned numbers of 256 bits. -/
abbrev Word256 := BitVec 256

/-- The name of a transaction, a hash of 32 bytes. -/
@[ext] structure TxHash where
  bits : BitVec 256
  deriving DecidableEq

def TxHash.text (h : TxHash) : String :=
  String.ofList ('0' :: 'x' :: Text.hexFixed 64 h.bits.toNat)

/-- A transfer to submit, the value in wei. -/
@[ext] structure TransferIntent where
  source : Address
  target : Address
  value : Word256
  deriving DecidableEq

def TransferIntent.fields (intent : TransferIntent) (hash : TxHash) : List (String × String) :=
  [("tx_hash", hash.text), ("from", intent.source.text), ("to", intent.target.text),
    ("value", toString intent.value.toNat)]

@[ext] structure Receipt where
  hash : TxHash
  status : Option UInt64
  gasUsed : Option Word256
  blockNumber : Option UInt64
  deriving DecidableEq

@[ext] structure TransactionRecord where
  hash : TxHash
  source : Address
  target : Option Address
  value : Word256
  deriving DecidableEq

@[ext] structure TransferOutcome where
  intent : TransferIntent
  hash : TxHash
  gasUsed : Word256
  blockNumber : Option UInt64
  deriving DecidableEq

/-- Gas of a plain transfer to an account without code. -/
def plainTransferGas : Word256 := 21000

/-- How long to wait for a receipt and how often to ask. -/
@[ext] structure WaitPolicy where
  timeout : Duration
  pollInterval : Duration
  deriving DecidableEq

end Devnet
