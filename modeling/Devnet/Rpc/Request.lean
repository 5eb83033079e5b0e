import Devnet.Rpc.Quantity

namespace Devnet.Rpc

/-- A transfer on its way to be submitted; what is not filled in yet is absent. -/
structure Draft where
  intent : TransferIntent
  nonce : Option Word256
  gasPrice : Option Word256
  gas : Option Word256

namespace Draft

def ofIntent (intent : TransferIntent) : Draft := ⟨intent, none, none, none⟩

def toJson (d : Draft) : Json :=
  let amount (name : String) (v : Option Word256) : List (String × Json) :=
    match v with
    | some n => [(name, quantity n.toNat)]
    | none => []
  .object ([("type", .string "0x00"), ("from", .string d.intent.source.text),
      ("to", .string d.intent.target.text)] ++ amount "gas" d.gas ++
    amount "gasPrice" d.gasPrice ++ amount "value" (some d.intent.value) ++
    amount "nonce" d.nonce)

end Draft

inductive Request where
  | chainId
  | accounts
  | gasPrice
  | transactionCount (account : Address)
  | estimateGas (draft : Draft)
  | sendTransaction (draft : Draft)
  | sendRawTransaction (bytes : List UInt8)
  | transactionReceipt (hash : TxHash)
  | transactionByHash (hash : TxHash)
  | balance (account : Address)

namespace Request

def method : Request → String
  | chainId => "eth_chainId"
  | accounts => "eth_accounts"
  | gasPrice => "eth_gasPrice"
  | transactionCount _ => "eth_getTransactionCount"
  | estimateGas _ => "eth_estimateGas"
  | sendTransaction _ => "eth_sendTransaction"
  | sendRawTransaction _ => "eth_sendRawTransaction"
  | transactionReceipt _ => "eth_getTransactionReceipt"
  | transactionByHash _ => "eth_getTransactionByHash"
  | balance _ => "eth_getBalance"

/-- The state that a question about an account refers to. -/
def latest : Json := .string "latest"

def params? : Request → Option (List Json)
  | chainId | accounts | gasPrice => none
  | transactionCount account | balance account => some [.string account.text, latest]
  | estimateGas draft | sendTransaction draft => some [draft.toJson]
  | sendRawTransaction bytes =>
    some [.string (String.ofList ('0' :: 'x' :: Text.hexBytes bytes))]
  | transactionReceipt hash | transactionByHash hash => some [.string hash.text]

/-- The whole request; `id` tells it from others. -/
def toJson (id : UInt64) (r : Request) : Json :=
  let params := match r.params? with
    | some ps => [("params", Json.array ps)]
    | none => []
  .object
    ([("jsonrpc", .string "2.0"), ("id", .natural id), ("method", .string r.method)] ++ params)

end Request

end Devnet.Rpc
