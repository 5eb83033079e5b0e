import Devnet.Rpc.Quantity

namespace Devnet.Rpc

open Json (Complaint Doc FieldReader RecordShape)

/-- A record in the making, and the names of the fields that are read. -/
structure Collected (α : Type) where
  seen : List String
  value : α

def stored {α β : Type} (name : String) (reader : (depth : Nat) → Doc → Except Complaint β)
    (store : β → α → α) : FieldReader (Collected α) where
  name := name
  isSet c := c.seen.contains name
  read depth d c := (reader depth d).map fun v => ⟨name :: c.seen, store v c.value⟩

/-- A field that only has to be well formed. -/
def checked {α β : Type} (name : String) (reader : (depth : Nat) → Doc → Except Complaint β) :
    FieldReader (Collected α) :=
  stored name reader fun _ v => v

/-- A record some of whose fields are required. -/
def shapeOf {α : Type} (name : String) (required : List String)
    (fields : List (FieldReader (Collected α))) (empty : α) : RecordShape (Collected α) α where
  name := name
  fields := fields
  empty := ⟨[], empty⟩
  finish c :=
    match required.find? (!c.seen.contains ·) with
    | some missing => .error missing
    | none => .ok c.value

def readData (_depth : Nat) (d : Doc) : Except Complaint Unit := do
  match d with
  | .string l _ stop =>
    let bytes := (← l.text).toList.flatMap String.utf8EncodeChar
    let digits := match bytes with
      | 0x30 :: 0x78 :: rest => rest
      | rest => rest
    if digits.length % 2 = 1 then
      throw (complaintAt (.other "Odd number of digits") stop)
    match digits.findIdx? fun b => (Text.hexValue? (Char.ofNat b.toNat)).isNone with
    | some i =>
      let c := Text.quotedChar (Char.ofNat (digits.getD i 0).toNat)
      throw (complaintAt (.other s!"Invalid character {c} at position {i}") stop)
    | none => return ()
  | d => throw (d.refusal "a string")

def readFlag (_depth : Nat) (d : Doc) : Except Complaint Bool :=
  match d with
  | .bool b _ _ => .ok b
  | d => .error (d.refusal "a boolean")

def readText (_depth : Nat) (d : Doc) : Except Complaint String := d.readString "a string"

def logShape : RecordShape (Collected Unit) Unit :=
  shapeOf "Log" ["address", "topics", "data"]
    [checked "address" readAddress, checked "topics" (readList readHash), checked "data" readData,
      checked "blockHash" (readOptional readHash), checked "blockNumber" (readOptional readWord64),
      checked "transactionHash" (readOptional readHash),
      checked "transactionIndex" (readOptional readWord64),
      checked "logIndex" (readOptional readWord256),
      checked "transactionLogIndex" (readOptional readWord256),
      checked "logType" (readOptional readText), checked "removed" (readOptional readFlag)] ()

def receiptShape : RecordShape (Collected Receipt) Receipt :=
  shapeOf "TransactionReceipt"
    ["transactionHash", "transactionIndex", "from", "cumulativeGasUsed", "logs", "logsBloom"]
    [stored "transactionHash" readHash fun v r => { r with hash := v },
      checked "transactionIndex" readWord64, checked "blockHash" (readOptional readHash),
      stored "blockNumber" (readOptional readWord64) fun v r => { r with blockNumber := v },
      checked "from" readAddress, checked "to" (readOptional readAddress),
      checked "cumulativeGasUsed" readWord256,
      stored "gasUsed" (readOptional readWord256) fun v r => { r with gasUsed := v },
      checked "contractAddress" (readOptional readAddress), checked "logs" (readList logShape.read),
      stored "status" (readOptional readWord64) fun v r => { r with status := v },
      checked "root" (readOptional readHash), checked "logsBloom" fun _ => readFixed 256,
      checked "type" (readOptional readWord64),
      checked "effectiveGasPrice" (readOptional readWord256)]
    ⟨⟨0⟩, none, none, none⟩

def accessShape : RecordShape (Collected Unit) Unit :=
  shapeOf "AccessListItem" ["address", "storageKeys"]
    [checked "address" readAddress, checked "storageKeys" (readList readHash)] ()

def transactionShape : RecordShape (Collected TransactionRecord) TransactionRecord :=
  shapeOf "Transaction" ["hash", "nonce", "value", "gas", "input", "v", "r", "s"]
    [stored "hash" readHash fun v t => { t with hash := v }, checked "nonce" readWord256,
      checked "blockHash" (readOptional readHash), checked "blockNumber" (readOptional readWord64),
      checked "transactionIndex" (readOptional readWord64),
      stored "from" readAddress fun v t => { t with source := v },
      stored "to" (readOptional readAddress) fun v t => { t with target := v },
      stored "value" readWord256 fun v t => { t with value := v },
      checked "gasPrice" (readOptional readWord256), checked "gas" readWord256,
      checked "input" readData, checked "v" readWord64, checked "r" readWord256,
      checked "s" readWord256, checked "type" (readOptional readWord64),
      checked "accessList" (readOptional (readList accessShape.read)),
      checked "maxPriorityFeePerGas" (readOptional readWord256),
      checked "maxFeePerGas" (readOptional readWord256),
      checked "chainId" (readOptional readWord256)]
    ⟨⟨0⟩, ⟨0⟩, none, 0⟩

end Devnet.Rpc
