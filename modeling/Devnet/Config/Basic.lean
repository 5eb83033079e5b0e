import Devnet.Config.AccountSource
import Devnet.Defaults
import Devnet.NameTable

namespace Devnet

@[ext] structure NetworkEntry where
  chainId : UInt64
  rpcUrl : String
  accounts : AccountSource
  deriving DecidableEq

@[ext] structure FixtureTexts where
  whale : String
  user : String
  deriving DecidableEq

@[ext] structure Config where
  networks : NameTable NetworkEntry
  fixture : FixtureTexts
  receiptTimeoutSecs : UInt64
  pollIntervalMs : UInt64

namespace NetworkEntry

def inspect (e : NetworkEntry) : String :=
  Text.record "NetworkEntry" [("chain_id", toString e.chainId.toNat),
    ("rpc_url", Text.quoted e.rpcUrl), ("accounts", e.accounts.inspect)]

def toJson (e : NetworkEntry) : Json :=
  .object [("chain_id", .natural e.chainId), ("rpc_url", .string e.rpcUrl),
    ("accounts", e.accounts.toJson)]

end NetworkEntry

namespace FixtureTexts

def builtIn : FixtureTexts := ⟨Defaults.whaleAddress, Defaults.userAddress⟩

def inspect (f : FixtureTexts) : String :=
  Text.record "FixtureEntry" [("whale", Text.quoted f.whale), ("user", Text.quoted f.user)]

def toJson (f : FixtureTexts) : Json :=
  .object [("whale", .string f.whale), ("user", .string f.user)]

end FixtureTexts

namespace Config

/-- The configuration without a file: both known networks at the local endpoint. -/
def builtIn : Config :=
  let entry (k : KnownNetwork) (accounts : AccountSource) : NetworkEntry :=
    ⟨k.chainId, Defaults.rpcUrl, accounts⟩
  { networks :=
      (NameTable.empty.insert KnownNetwork.hardhat.name (entry .hardhat .node)).insert
        KnownNetwork.kvtool.name (entry .kvtool (.env Defaults.keyVariables))
    fixture := .builtIn
    receiptTimeoutSecs := Defaults.receiptTimeoutSeconds
    pollIntervalMs := Defaults.pollIntervalMilliseconds }

def inspect (c : Config) : String :=
  Text.record "ConformanceConfig"
    [("networks", Text.table (c.networks.rows.map fun r => (r.1, r.2.inspect))),
      ("fixture", c.fixture.inspect),
      ("receipt_timeout_secs", toString c.receiptTimeoutSecs.toNat),
      ("poll_interval_ms", toString c.pollIntervalMs.toNat)]

def toJson (c : Config) : Json :=
  .object
    [("networks", .object (c.networks.rows.map fun r => (r.1, r.2.toJson))),
      ("fixture", c.fixture.toJson),
      ("receipt_timeout_secs", .natural c.receiptTimeoutSecs),
      ("poll_interval_ms", .natural c.pollIntervalMs)]

def waitPolicy (c : Config) : WaitPolicy :=
  ⟨.ofSeconds c.receiptTimeoutSecs.toNat, .ofMilliseconds c.pollIntervalMs.toNat⟩

end Config

end Devnet
