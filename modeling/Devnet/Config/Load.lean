import Devnet.Config.Basic
import Devnet.Environment
import Devnet.Json.Fields
import Devnet.Log

namespace Devnet

open Json (Complaint Doc FieldReader RecordShape)

structure PartialEntry where
  chainId : Option UInt64
  rpcUrl : Option String
  accounts : Option AccountSource

namespace NetworkEntry

def chainIdField : FieldReader PartialEntry where
  name := "chain_id"
  isSet e := e.chainId.isSome
  read _ d e := d.readNatural.map fun n => { e with chainId := some n }

def rpcUrlField : FieldReader PartialEntry where
  name := "rpc_url"
  isSet e := e.rpcUrl.isSome
  read _ d e := (d.readString "a string").map fun s => { e with rpcUrl := some s }

def accountsField : FieldReader PartialEntry where
  name := "accounts"
  isSet e := e.accounts.isSome
  read depth d e := (AccountSource.read depth d).map fun a => { e with accounts := some a }

/-- Only the chain id is required; without more the node at the local endpoint signs. -/
def shape : RecordShape PartialEntry NetworkEntry where
  name := "NetworkEntry"
  fields := [chainIdField, rpcUrlField, accountsField]
  empty := ⟨none, none, none⟩
  finish e :=
    match e.chainId with
    | none => .error chainIdField.name
    | some chainId => .ok ⟨chainId, e.rpcUrl.getD Defaults.rpcUrl, e.accounts.getD .node⟩

def read (depth : Nat) (d : Doc) : Except Complaint NetworkEntry := shape.read depth d

end NetworkEntry

structure PartialFixture where
  whale : Option String
  user : Option String

namespace FixtureTexts

def whaleField : FieldReader PartialFixture where
  name := "whale"
  isSet f := f.whale.isSome
  read _ d f := (d.readString "a string").map fun s => { f with whale := some s }

def userField : FieldReader PartialFixture where
  name := "user"
  isSet f := f.user.isSome
  read _ d f := (d.readString "a string").map fun s => { f with user := some s }

/-- Both addresses are required. -/
def shape : RecordShape PartialFixture FixtureTexts where
  name := "FixtureEntry"
  fields := [whaleField, userField]
  empty := ⟨none, none⟩
  finish f :=
    match f.whale, f.user with
    | none, _ => .error whaleField.name
    | some _, none => .error userField.name
    | some whale, some user => .ok ⟨whale, user⟩

def read (depth : Nat) (d : Doc) : Except Complaint FixtureTexts := shape.read depth d

end FixtureTexts

structure PartialConfig where
  networks : Option (NameTable NetworkEntry)
  fixture : Option FixtureTexts
  receiptTimeoutSecs : Option UInt64
  pollIntervalMs : Option UInt64

namespace Config

/-- The networks by name; of two entries of one name the last counts. -/
def readNetworks (depth : Nat) (d : Doc) : Except Complaint (NameTable NetworkEntry) :=
  match d with
  | .object members start =>
    Doc.enter depth start fun depth =>
      members.readTable NetworkEntry.read NameTable.insert depth NameTable.empty
  | d => .error (d.refusal "a map")

def networksField : FieldReader PartialConfig where
  name := "networks"
  isSet c := c.networks.isSome
  read depth d c := (readNetworks depth d).map fun t => { c with networks := some t }

def fixtureField : FieldReader PartialConfig where
  name := "fixture"
  isSet c := c.fixture.isSome
  read depth d c := (FixtureTexts.read depth d).map fun f => { c with fixture := some f }

def receiptTimeoutField : FieldReader PartialConfig where
  name := "receipt_timeout_secs"
  isSet c := c.receiptTimeoutSecs.isSome
  read _ d c := d.readNatural.map fun n => { c with receiptTimeoutSecs := some n }

def pollIntervalField : FieldReader PartialConfig where
  name := "poll_interval_ms"
  isSet c := c.pollIntervalMs.isSome
  read _ d c := d.readNatural.map fun n => { c with pollIntervalMs := some n }

/-- Only the networks are required. -/
def shape : RecordShape PartialConfig Config where
  name := "ConformanceConfig"
  fields := [networksField, fixtureField, receiptTimeoutField, pollIntervalField]
  empty := ⟨none, none, none, none⟩
  finish c :=
    match c.networks with
    | none => .error networksField.name
    | some networks =>
      .ok ⟨networks, c.fixture.getD .builtIn,
        c.receiptTimeoutSecs.getD Defaults.receiptTimeoutSeconds,
        c.pollIntervalMs.getD Defaults.pollIntervalMilliseconds⟩

/-- The configuration that a text spells, whatever networks it names. -/
def decode (raw : String) : Except String Config := Json.readText shape.read raw

/-- The first name, in rising order, that is no known network's. -/
def unknownName? (c : Config) : Option String :=
  c.networks.names.find? fun name => (KnownNetwork.ofName? name).isNone

def validate (c : Config) : Except CheckError Config :=
  match c.unknownName? with
  | some name => .error (.unknownNetwork name)
  | none =>
    if c.pollIntervalMs = 0 then
      .error (.configMalformed s!"{pollIntervalField.name} must be non-zero")
    else .ok c

def parse (raw : String) : Except CheckError Config :=
  match decode raw with
  | .error detail => .error (.configMalformed detail)
  | .ok c => c.validate

end Config

end Devnet

namespace Devnet.Config

def load (files : Files) (path : FilePath) : Except CheckError Config × List LogLine :=
  let shown := Text.decodeUtf8Lossy path
  match files.readText path with
  | .error fault => (.error (.configUnreadable s!"{shown}: {fault.message}"), [])
  | .ok raw =>
    (parse raw, [⟨.debug, .config, "loaded network configuration", [("path", shown)]⟩])

def usualPath : FilePath := Text.encodeUtf8 (Defaults.configDirectory ++ "/" ++ Defaults.configFile)

/-- Reads the file that the environment names; a name that is no text counts as none. -/
def loadDefault (files : Files) (env : Environment) : Except CheckError Config × List LogLine :=
  match env.text? Defaults.configVariable with
  | some path => load files (Text.encodeUtf8 path)
  | none =>
    if files.exists? usualPath then load files usualPath
    else
      (.ok builtIn,
        [⟨.debug, .config, "no configuration file found, using built-in defaults", []⟩])

end Devnet.Config
