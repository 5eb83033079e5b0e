import Devnet.Text.Quoted
import Devnet.Transfer

namespace Devnet

/-- Where a chain id that does not match came from. -/
inductive ChainIdOrigin where
  | declared
  | live
  deriving DecidableEq

def ChainIdOrigin.name : ChainIdOrigin → String
  | .declared => "declared"
  | .live => "live"

def ChainIdOrigin.inspect : ChainIdOrigin → String
  | .declared => "Declared"
  | .live => "Live"

def Role.inspect : Role → String
  | .whale => "Whale"
  | .user => "User"

inductive ReceiptField where
  | status
  | gasUsed
  deriving DecidableEq

def ReceiptField.name : ReceiptField → String
  | .status => "status"
  | .gasUsed => "gasUsed"

/-- Broad classes of failure. -/
inductive FailureClass where
  | configuration
  | configurationMismatch
  | transactionFailure
  | gasAnomaly
  | timeout
  | transport
  deriving DecidableEq

def FailureClass.name : FailureClass → String
  | .configuration => "Configuration"
  | .configurationMismatch => "ConfigurationMismatch"
  | .transactionFailure => "TransactionFailure"
  | .gasAnomaly => "GasAnomaly"
  | .timeout => "Timeout"
  | .transport => "Transport"

inductive CheckError where
  | unknownNetwork (name : String)
  | networkNotConfigured (name : String)
  | configUnreadable (detail : String)
  | configMalformed (detail : String)
  | invalidAddress (raw : String)
  | missingPrivateKey (name : String)
  | invalidPrivateKey (detail : String)
  | clientSetup (detail : String)
  | rpcCall (detail : String)
  | noWallet (account : Address)
  | sendFailed (detail : String)
  | receiptTimeout (hash : TxHash) (timeout : Duration)
  | transactionNotFound (hash : TxHash)
  | chainIdMismatch (origin : ChainIdOrigin) (expected actual : UInt64)
  | accountCountMismatch (expected actual : Nat)
  | accountMismatch (index : Nat) (role : Role) (expected actual : Address)
  | transferReverted (hash : TxHash)
  | missingReceiptField (hash : TxHash) (field : ReceiptField)
  | unexpectedGasUsed (hash : TxHash) (expected actual : Word256)
  | valueMismatch (hash : TxHash) (expected actual : Word256)
  deriving DecidableEq

namespace CheckError

def message : CheckError → String
  | unknownNetwork name => s!"unknown network `{name}`, expected one of: hardhat, kvtool"
  | networkNotConfigured name => s!"network `{name}` is not present in configuration"
  | configUnreadable detail => s!"failed to read config file: {detail}"
  | configMalformed detail => s!"failed to parse config: {detail}"
  | invalidAddress raw => s!"invalid address `{raw}`"
  | missingPrivateKey name => s!"private key environment variable `{name}` is not set"
  | invalidPrivateKey detail => s!"invalid private key: {detail}"
  | clientSetup detail => s!"failed to instantiate RPC client: {detail}"
  | rpcCall detail => s!"rpc call failed: {detail}"
  | noWallet account => s!"no wallet available for account {account.text}"
  | sendFailed detail => s!"sending transaction failed: {detail}"
  | receiptTimeout hash timeout =>
    s!"timed out after {timeout.text} waiting for receipt of {hash.text}"
  | transactionNotFound hash => s!"transaction {hash.text} not found"
  | chainIdMismatch origin expected actual =>
    s!"{origin.name} chain id is {actual.toNat}, expected {expected.toNat}"
  | accountCountMismatch expected actual =>
    s!"expected {expected} wallet accounts, found {actual}"
  | accountMismatch index role expected actual =>
    s!"wallet account {index} ({role.name}) is {actual.text}, expected {expected.text}"
  | transferReverted hash => s!"transaction {hash.text} was included but did not succeed"
  | missingReceiptField hash field => s!"receipt of {hash.text} has no `{field.name}` field"
  | unexpectedGasUsed hash expected actual =>
    s!"transaction {hash.text} used {actual.toNat} gas, expected {expected.toNat}"
  | valueMismatch hash expected actual =>
    s!"transaction {hash.text} carries value {actual.toNat}, expected {expected.toNat}"

def kind : CheckError → String
  | unknownNetwork _ => "UnknownNetwork"
  | networkNotConfigured _ => "NetworkNotConfigured"
  | configUnreadable _ => "ConfigRead"
  | configMalformed _ => "ConfigParse"
  | invalidAddress _ => "InvalidAddress"
  | missingPrivateKey _ => "MissingPrivateKey"
  | invalidPrivateKey _ => "InvalidPrivateKey"
  | clientSetup _ => "FailedToCreateRpcClient"
  | rpcCall _ => "RpcCall"
  | noWallet _ => "NoWalletForAccount"
  | sendFailed _ => "FailedToSendTransaction"
  | receiptTimeout .. => "ReceiptTimeout"
  | transactionNotFound _ => "TransactionNotFound"
  | chainIdMismatch .. => "ChainIdMismatch"
  | accountCountMismatch .. => "AccountCountMismatch"
  | accountMismatch .. => "AccountMismatch"
  | transferReverted _ => "TransferReverted"
  | missingReceiptField .. => "MissingReceiptField"
  | unexpectedGasUsed .. => "UnexpectedGasUsed"
  | valueMismatch .. => "ValueMismatch"

def failureClass : CheckError → FailureClass
  | unknownNetwork _ | networkNotConfigured _ | configUnreadable _ | configMalformed _
  | invalidAddress _ | missingPrivateKey _ | invalidPrivateKey _ => .configuration
  | chainIdMismatch .. | accountCountMismatch .. | accountMismatch .. => .configurationMismatch
  | transferReverted _ | missingReceiptField .. | valueMismatch .. | transactionNotFound _ =>
    .transactionFailure
  | unexpectedGasUsed .. => .gasAnomaly
  | receiptTimeout .. => .timeout
  | clientSetup _ | rpcCall _ | noWallet _ | sendFailed _ => .transport

def inspect (e : CheckError) : String :=
  match e with
  | unknownNetwork s | networkNotConfigured s | configUnreadable s | configMalformed s
  | invalidAddress s | missingPrivateKey s | invalidPrivateKey s | clientSetup s | rpcCall s
  | sendFailed s => Text.wrapped e.kind (Text.quoted s)
  | noWallet account => Text.wrapped e.kind account.text
  | transactionNotFound hash | transferReverted hash => Text.wrapped e.kind hash.text
  | receiptTimeout hash timeout =>
    Text.record e.kind [("tx_hash", hash.text), ("timeout", timeout.text)]
  | chainIdMismatch origin expected actual =>
    Text.record e.kind [("origin", origin.inspect), ("expected", toString expected.toNat),
      ("actual", toString actual.toNat)]
  | accountCountMismatch expected actual =>
    Text.record e.kind [("expected", toString expected), ("actual", toString actual)]
  | accountMismatch index role expected actual =>
    Text.record e.kind [("index", toString index), ("role", role.inspect),
      ("expected", expected.text), ("actual", actual.text)]
  | missingReceiptField hash field =>
    Text.record e.kind [("tx_hash", hash.text), ("field", Text.quoted field.name)]
  | unexpectedGasUsed hash expected actual | valueMismatch hash expected actual =>
    Text.record e.kind [("tx_hash", hash.text), ("expected", toString expected.toNat),
      ("actual", toString actual.toNat)]

end CheckError

end Devnet
