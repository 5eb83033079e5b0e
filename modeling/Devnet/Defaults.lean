import Devnet.Transfer

namespace Devnet

inductive KnownNetwork where
  | hardhat
  | kvtool
  deriving DecidableEq

namespace KnownNetwork

def all : List KnownNetwork := [.hardhat, .kvtool]

def name : KnownNetwork → String
  | .hardhat => "hardhat"
  | .kvtool => "kvtool"

def chainId : KnownNetwork → UInt64
  | .hardhat => 31337
  | .kvtool => 8888

def inspect : KnownNetwork → String
  | .hardhat => "Hardhat"
  | .kvtool => "Kvtool"

/-- The network of that name, letter for letter. -/
def ofName? (s : String) : Option KnownNetwork := all.find? fun k => k.name = s

theorem ofName_eq_some_iff {s : String} {k : KnownNetwork} : ofName? s = some k ↔ k.name = s := by
  constructor
  · intro h
    simpa using List.find?_some h
  · rintro rfl
    cases k <;> decide

end KnownNetwork

end Devnet

namespace Devnet.Defaults

def rpcUrl : String := "http://127.0.0.1:8545"

def configDirectory : String := "configs"

def configFile : String := "networks.json"

def networkName : String := "hardhat"

def whaleAddress : String := "0x03db6b11F47d074a532b9eb8a98aB7AdA5845087"

def userAddress : String := "0x7Bbf300890857b8c241b219C6a489431669b3aFA"

/-- How many wallet accounts a network must list. -/
def accountCount : Nat := 2

def transferValue : Word256 := 1

def receiptTimeoutSeconds : UInt64 := 60

def pollIntervalMilliseconds : UInt64 := 500

def waitPolicy : WaitPolicy :=
  ⟨.ofSeconds receiptTimeoutSeconds.toNat, .ofMilliseconds pollIntervalMilliseconds.toNat⟩

def networkVariable : String := "NETWORK_CHECK_NETWORK"

def configVariable : String := "NETWORK_CHECK_CONFIG"

/-- The environment variables that hold the private keys of the second known network. -/
def keyVariables : List String := ["WHALE_PRIVATE_KEY", "USER_PRIVATE_KEY"]

end Devnet.Defaults
