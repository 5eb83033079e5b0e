import Devnet.Account.Keyring
import Devnet.Client
import Devnet.Config.Target
import Devnet.Rpc.Node
import Devnet.Rpc.SignedTransfer

namespace Devnet.Rpc

/-- A key that signs for the chain that the node reported when it was set up. -/
structure Signer where
  key : PrivateKey
  chainId : UInt64

def Signer.address (s : Signer) : Address := s.key.address

inductive Signers where
  | node
  /-- One for every key, in their order. -/
  | keys (signers : List Signer)

structure Network where
  url : Url
  signers : Signers

inductive ConnectFault where
  | check (e : CheckError)
  /-- A chain id is beyond the 64 bits of a signature's mark; this stops the program. -/
  | oversizedChainId

def oversizedWords : String := "Integer overflow when casting to u64"

def narrow? (n : Word256) : Option UInt64 :=
  if n.toNat < UInt64.size then some (UInt64.ofNat n.toNat) else none

/-- Asks the node for its chain id on behalf of a key. -/
def setUpSigner {ν : Type} (node : Node ν) (url : Url) (key : PrivateKey) :
    Exchange ν ConnectFault Signer := do
  let n ← (call node url .chainId readWord256).orElse fun f => .check (.clientSetup f.message)
  match narrow? n with
  | some chainId => return ⟨key, chainId⟩
  | none => throw .oversizedChainId

/-- The keys to sign with, read before any request is made. -/
def configuredKeys (target : Target) (env : Environment) : Except CheckError (Option Keyring) := do
  match ← target.accounts.privateKeys env with
  | none => return none
  | some texts => return some (← Keyring.ofTexts texts)

def configuredUrl (target : Target) : Except CheckError Url :=
  (Url.parse target.rpcUrl).mapError fun f => .clientSetup f.message

/-- Connects to the target: the URL is read first, then the keys, then each key asks for the chain
id. -/
def connect {ν : Type} (node : Node ν) (target : Target) (env : Environment) :
    Exchange ν ConnectFault Network := do
  match configuredUrl target with
  | .error e => throw (.check e)
  | .ok url =>
    match configuredKeys target env with
    | .error e => throw (.check e)
    | .ok none => return ⟨url, .node⟩
    | .ok (some ring) => return ⟨url, .keys (← ring.mapM (setUpSigner node url))⟩

def connectedLine (target : Target) : LogLine :=
  ⟨.info, .network, "connected to network",
    [("network", target.network.name), ("rpc_url", target.rpcUrl),
      ("accounts", target.accounts.inspect)]⟩

def connectLog (target : Target) : Except ConnectFault Network → List LogLine
  | .ok _ => [connectedLine target]
  | .error _ => []

/-- Someone who can send from an account. -/
inductive Wallet where
  | signer (s : Signer)
  | node (account : Address)

def Wallet.address : Wallet → Address
  | signer s => s.address
  | node account => account

namespace Network

/-- Asks with faults as failed calls. -/
def ask {ν α : Type} (node : Node ν) (net : Network) (request : Request)
    (reader : (depth : Nat) → Json.Doc → Except Json.Complaint α) : Exchange ν CheckError α :=
  (call node net.url request reader).orElse fun f => .rpcCall f.message

def walletAccounts {ν : Type} (node : Node ν) (net : Network) :
    Exchange ν CheckError (List Address) :=
  match net.signers with
  | .node => net.ask node .accounts (readList readAddress)
  | .keys signers => pure (signers.map (·.address))

/-- The wallet of an account; the node's accounts are asked for each time. -/
def wallet {ν : Type} (node : Node ν) (net : Network) (account : Address) :
    Exchange ν CheckError Wallet :=
  match net.signers with
  | .node => do
    let accounts ← net.walletAccounts node
    if accounts.contains account then return .node account else throw (.noWallet account)
  | .keys signers =>
    match signers.find? fun s => s.address = account with
    | some s => pure (.signer s)
    | none => throw (.noWallet account)

/-- Asks with faults as failed submissions. -/
def askToSend {ν α : Type} (node : Node ν) (net : Network) (request : Request)
    (reader : (depth : Nat) → Json.Doc → Except Json.Complaint α) : Exchange ν CheckError α :=
  (call node net.url request reader).orElse fun f => .sendFailed f.message

/-- Asks the node for a gas price and then for the gas of the draft. -/
def fill {ν : Type} (node : Node ν) (net : Network) (draft : Draft) :
    Exchange ν CheckError (Word256 × Word256) := do
  let gasPrice ← net.askToSend node .gasPrice readWord256
  let gas ← net.askToSend node
    (.estimateGas { draft with gasPrice := some gasPrice }) readWord256
  return (gasPrice, gas)

def sendByNode {ν : Type} (node : Node ν) (net : Network) (intent : TransferIntent) :
    Exchange ν CheckError TxHash := do
  let draft := Draft.ofIntent intent
  let (gasPrice, gas) ← net.fill node draft
  net.askToSend node
    (.sendTransaction { draft with gasPrice := some gasPrice, gas := some gas }) readHash

/-- Submits a signed transfer, if it could be signed. -/
def submitSigned {ν : Type} (node : Node ν) (net : Network) :
    Option (List UInt8) → Exchange ν CheckError TxHash
  | some bytes => net.askToSend node (.sendRawTransaction bytes) readHash
  | none => throw (.sendFailed "signature error")

def sendSigned {ν : Type} (node : Node ν) (net : Network) (s : Signer) (intent : TransferIntent) :
    Exchange ν CheckError TxHash := do
  let nonce ← net.askToSend node (.transactionCount intent.source) readWord256
  let (gasPrice, gas) ← net.fill node { Draft.ofIntent intent with nonce := some nonce }
  net.submitSigned node ((FilledTransfer.mk intent nonce gasPrice gas).sign? s.chainId s.key)

def sendFrom {ν : Type} (node : Node ν) (net : Network) (w : Wallet) (target : Address)
    (value : Word256) : Exchange ν CheckError TxHash :=
  let intent : TransferIntent := ⟨w.address, target, value⟩
  match w with
  | .node _ => net.sendByNode node intent
  | .signer s => net.sendSigned node s intent

def sendTransfer {ν : Type} (node : Node ν) (net : Network) (intent : TransferIntent) :
    Exchange ν CheckError TxHash := do
  let w ← net.wallet node intent.source
  net.sendFrom node w intent.target intent.value

/-- The chain id, which must fit 64 bits. -/
def chainId {ν : Type} (node : Node ν) (net : Network) : Exchange ν CheckError UInt64 := do
  let n ← net.ask node .chainId readWord256
  match narrow? n with
  | some c => return c
  | none =>
    throw (.rpcCall
      s!"chain id {n.toNat} out of range: integer overflow when casting to u64")

def answer {ν : Type} (node : Node ν) (net : Network) (q : Query) :
    Exchange ν CheckError q.Answer :=
  match q with
  | .chainId => net.chainId node
  | .accounts => net.walletAccounts node
  | .send intent => net.sendTransfer node intent
  | .receipt hash => net.ask node (.transactionReceipt hash) (readOptional receiptShape.read)
  | .balance account => net.ask node (.balance account) readWord256
  | .transaction hash =>
    net.ask node (.transactionByHash hash) (readOptional transactionShape.read)

def answerLog (q : Query) (r : Except CheckError q.Answer) : List LogLine :=
  match q, r with
  | .send intent, .ok hash =>
    [⟨.debug, .network, "sent transfer", intent.fields hash⟩]
  | _, _ => []

/-- The client that asks the node; an answer takes as long as the requests that are made for it. -/
def client {ν : Type} (node : Node ν) (net : Network) : Client (Link ν) where
  reply q link :=
    let (r, after) := (net.answer node q).run link
    (⟨r, node.elapsed link after, answerLog q r⟩, after)

end Network

end Devnet.Rpc
