import Devnet.Text.Quoted

namespace Devnet

inductive LogLevel where
  | error
  | warn
  | info
  | debug
  | trace
  deriving DecidableEq

namespace LogLevel

/-- Higher for what is noted in more detail. -/
def detail : LogLevel → Nat
  | error => 1
  | warn => 2
  | info => 3
  | debug => 4
  | trace => 5

/-- The level's name, five characters wide. -/
def label : LogLevel → String
  | error => "ERROR"
  | warn => " WARN"
  | info => " INFO"
  | debug => "DEBUG"
  | trace => "TRACE"

end LogLevel

inductive Component where
  | commandLine
  | config
  | network
  | checks
  | suite
  deriving DecidableEq

/-- The name that log settings refer to a component by. -/
def Component.path : Component → String
  | commandLine => "evm_network_check"
  | config => "evm_network_check::config"
  | network => "evm_network_check::network"
  | checks => "evm_network_check::checks"
  | suite => "evm_network_check::suite"

structure LogLine where
  level : LogLevel
  component : Component
  message : String
  fields : List (String × String)
  deriving DecidableEq

namespace LogLine

def fieldText (l : LogLine) : String :=
  String.join (l.fields.map fun f => " " ++ f.1 ++ "=" ++ f.2)

def text (l : LogLine) : String := l.level.label ++ " " ++ l.message ++ l.fieldText

end LogLine

end Devnet
