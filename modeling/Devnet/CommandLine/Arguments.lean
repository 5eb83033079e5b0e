import Devnet.Defaults
import Devnet.Environment
import Devnet.Text.Styled

namespace Devnet.CommandLine

inductive ValueOption where
  | network
  | config
  | timeout
  deriving DecidableEq

/-- What a run is asked for; absent options are left to the configuration. -/
structure Options where
  network : String
  /-- A path need not be text. -/
  config : Option (List UInt8)
  timeoutSecs : Option UInt64

inductive Request where
  | run (options : Options)
  | help
  | version
  | usageError

structure Given where
  network : Option String
  config : Option String
  timeoutSecs : Option UInt64

/-- Decimal digits, also with a plus in front, that fit 64 bits. -/
def readSeconds? (s : String) : Option UInt64 :=
  let digits := match s.toList with
    | '+' :: cs => cs
    | cs => cs
  if digits.isEmpty || !digits.all Char.isDigit then none
  else
    let n := digits.foldl (fun n c => 10 * n + (c.toNat - '0'.toNat)) 0
    if n < UInt64.size then some (UInt64.ofNat n) else none

/-- Takes the value of an option; each may be given once. -/
def Given.take? (g : Given) (o : ValueOption) (v : String) : Option Given :=
  match o with
  | .network => if g.network.isSome then none else some { g with network := some v }
  | .config =>
    if g.config.isSome || v.isEmpty then none else some { g with config := some v }
  | .timeout =>
    match g.timeoutSecs, readSeconds? v with
    | none, some n => some { g with timeoutSecs := some n }
    | _, _ => none

inductive Token where
  | help
  | version
  | valued (o : ValueOption) (v : String)
  /-- An option whose value is the next argument. -/
  | awaiting (o : ValueOption)
  /-- From here on nothing is an option. -/
  | endOfOptions
  | wrong

/-- The value behind an option's name in the same argument. -/
def afterEquals (cs : List Char) : String :=
  match cs with
  | '=' :: v => String.ofList v
  | v => String.ofList v

def shortToken : List Char → Token
  | 'h' :: _ => .help
  | 'V' :: _ => .version
  | ['n'] => .awaiting .network
  | 'n' :: v => .valued .network (afterEquals v)
  | ['c'] => .awaiting .config
  | 'c' :: v => .valued .config (afterEquals v)
  | _ => .wrong

def longOption? (name : String) : Option ValueOption :=
  match name with
  | "network" => some .network
  | "config" => some .config
  | "timeout-secs" => some .timeout
  | _ => none

def longToken (cs : List Char) : Token :=
  let name := String.ofList (cs.takeWhile (· ≠ '='))
  match longOption? name, cs.dropWhile (· ≠ '=') with
  | some o, [] => .awaiting o
  | some o, _ :: v => .valued o (String.ofList v)
  | none, [] =>
    if name = "help" then .help else if name = "version" then .version else .wrong
  | none, _ :: _ => .wrong

def tokenOf (argument : String) : Token :=
  match argument.toList with
  | ['-', '-'] => .endOfOptions
  | '-' :: '-' :: cs => longToken cs
  | ['-'] => .wrong
  | '-' :: cs => shortToken cs
  | _ => .wrong

/-- Whether an argument can be the value of the option before it. -/
def isValue (argument : String) : Bool :=
  match argument.toList with
  | '-' :: _ :: _ => false
  | _ => true

/-- Fills in the options that are absent from the environment. -/
def Given.complete (g : Given) (env : Environment) : Request :=
  let network : Option String := match g.network, env.get? Defaults.networkVariable with
    | some n, _ => some n
    | none, none => some Defaults.networkName
    | none, some bytes => Text.decodeUtf8? bytes
  let config : Option (Option (List UInt8)) :=
    match g.config, env.get? Defaults.configVariable with
    | some c, _ => some (some (Text.encodeUtf8 c))
    | none, none => some none
    | none, some [] => none
    | none, some bytes => some (some bytes)
  match network, config with
  | some network, some config => .run ⟨network, config, g.timeoutSecs⟩
  | _, _ => .usageError

def readFrom (env : Environment) : Given → List String → Request
  | g, [] => g.complete env
  | g, [a] =>
    match tokenOf a with
    | .help => .help
    | .version => .version
    | .valued o v =>
      match g.take? o v with
      | some g => g.complete env
      | none => .usageError
    | .endOfOptions => g.complete env
    | .awaiting _ | .wrong => .usageError
  | g, a :: b :: rest =>
    match tokenOf a with
    | .help => .help
    | .version => .version
    | .valued o v =>
      match g.take? o v with
      | some g => readFrom env g (b :: rest)
      | none => .usageError
    | .awaiting o =>
      if isValue b then
        match g.take? o b with
        | some g => readFrom env g rest
        | none => .usageError
      else .usageError
    | .endOfOptions | .wrong => .usageError

def read (arguments : List String) (env : Environment) : Request :=
  readFrom env ⟨none, none, none⟩ arguments

def helpColumn : Nat := 37

/-- The text about an option; its further lines begin in the same column as the first. -/
def inHelpColumn (s : String) : String :=
  let lineStart := '\n' :: List.replicate helpColumn ' '
  String.ofList (s.toList.flatMap fun c => if c = '\n' then lineStart else [c])

/-- The text that help consists of, with its styles; the environment's values are shown in it. -/
def styledHelp (env : Environment) : String :=
  let bold := Text.bold
  let shown (name : String) : String :=
    s!"[env: {name}=" ++ Text.decodeUtf8Lossy ((env.get? name).getD []) ++ "]"
  let aboutNetwork := "Network to check (hardhat, kvtool) " ++
    shown Defaults.networkVariable ++ s!" [default: {Defaults.networkName}]"
  let aboutConfig := "Path to a JSON network configuration file " ++
    shown Defaults.configVariable
  "\n".intercalate
    ["Conformance checks for local EVM development networks", "",
      Text.heading "Usage:" ++ " " ++ bold "evm-network-check" ++ " [OPTIONS]", "",
      Text.heading "Options:",
      "  " ++ bold "-n" ++ ", " ++ bold "--network" ++ " <NETWORK>            " ++
        inHelpColumn aboutNetwork,
      "  " ++ bold "-c" ++ ", " ++ bold "--config" ++ " <CONFIG>              " ++
        inHelpColumn aboutConfig,
      "      " ++ bold "--timeout-secs" ++ " <TIMEOUT_SECS>  " ++
        "Seconds to wait for each transaction receipt",
      "  " ++ bold "-h" ++ ", " ++ bold "--help" ++ "                         Print help",
      "  " ++ bold "-V" ++ ", " ++ bold "--version" ++ "                      Print version"]

/-- Help as it is printed, without styles. A command to the terminal in a value of the environment
is left out with them. -/
def helpText (env : Environment) : String := Text.withoutCommands (styledHelp env)

def versionText : String := "evm-network-check 0.1.0"

end Devnet.CommandLine
