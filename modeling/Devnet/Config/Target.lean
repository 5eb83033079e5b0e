import Devnet.Config.Basic

namespace Devnet

@[ext] structure Target where
  network : KnownNetwork
  /-- The chain id that the configuration declares. -/
  chainId : UInt64
  rpcUrl : String
  accounts : AccountSource
  pollInterval : Duration
  deriving DecidableEq

namespace Target

/-- A known network with everything else assumed. -/
def ofNetwork (k : KnownNetwork) : Target :=
  ⟨k, k.chainId, Defaults.rpcUrl, .node, .ofMilliseconds Defaults.pollIntervalMilliseconds.toNat⟩

/-- The chain id that the network must report. -/
def expectedChainId (t : Target) : UInt64 := t.network.chainId

def inspect (t : Target) : String :=
  Text.record "NetworkConfig" [("network", t.network.inspect),
    ("chain_id", toString t.chainId.toNat), ("rpc_url", Text.quoted t.rpcUrl),
    ("accounts", t.accounts.inspect), ("poll_interval", t.pollInterval.text)]

end Target

def KnownNetwork.parse (name : String) : Except CheckError KnownNetwork :=
  match KnownNetwork.ofName? name with
  | some k => .ok k
  | none => .error (.unknownNetwork name)

def Address.parse (raw : String) : Except CheckError Address :=
  match Address.parse? raw with
  | some a => .ok a
  | none => .error (.invalidAddress raw)

/-- Reads the whale's address and then the user's. -/
def Fixture.parse (whale user : String) : Except CheckError Fixture := do
  let w ← Address.parse whale
  let u ← Address.parse user
  return ⟨w, u⟩

namespace Config

/-- The target of a name: it must be known, and it must be listed. -/
def target (c : Config) (name : String) : Except CheckError Target := do
  let k ← KnownNetwork.parse name
  match c.networks.get? k.name with
  | none => throw (.networkNotConfigured name)
  | some e =>
    return ⟨k, e.chainId, e.rpcUrl, e.accounts, .ofMilliseconds c.pollIntervalMs.toNat⟩

def parsedFixture (c : Config) : Except CheckError Fixture :=
  Fixture.parse c.fixture.whale c.fixture.user

end Config

end Devnet
