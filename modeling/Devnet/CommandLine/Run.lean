import Devnet.CommandLine.Arguments
import Devnet.CommandLine.LogFilter
import Devnet.Config.Load
import Devnet.Rpc.Network
import Devnet.Suite

namespace Devnet.CommandLine

/-- What a run leaves behind: the exit code, what is printed, and the state of the node's link. -/
structure Result (ν : Type) where
  exit : Nat
  /-- Each is followed by a line break. -/
  printed : List String
  link : Rpc.Link ν

def exitPassed : Nat := 0

def exitFailed : Nat := 1

def exitRefused : Nat := 2

/-- The program was stopped by an arithmetic overflow or by a setting of the log that it cannot
take apart. -/
def exitStopped : Nat := 101

/-- The target, the accounts and the waiting times of a run. -/
def prepare (files : Files) (env : Environment) (options : Options) :
    Except CheckError (Target × Fixture × WaitPolicy) × List LogLine :=
  let (loaded, log) := match options.config with
    | some path => Config.load files path
    | none => Config.loadDefault files env
  let prepared := do
    let config ← loaded
    let target ← config.target options.network
    let fixture ← config.parsedFixture
    let wait := match options.timeoutSecs with
      | some n => { config.waitPolicy with timeout := .ofSeconds n.toNat }
      | none => config.waitPolicy
    return (target, fixture, wait)
  (prepared, log)

/-- The line that an error is noted in when the checks cannot be run. -/
def errorLine (e : CheckError) : LogLine := ⟨.error, .commandLine, e.message, []⟩

def runChecks {ν : Type} (node : Rpc.Node ν) (files : Files) (env : Environment)
    (options : Options) (link : Rpc.Link ν) : Nat × List LogLine × Option Report × Rpc.Link ν :=
  match prepare files env options with
  | (.error e, log) => (exitRefused, log ++ [errorLine e], none, link)
  | (.ok (target, fixture, wait), log) =>
    let (connected, link) := (Rpc.connect node target env).run link
    let log := log ++ Rpc.connectLog target connected
    match connected with
    | .error (.check e) => (exitRefused, log ++ [errorLine e], none, link)
    | .error .oversizedChainId => (exitStopped, log, none, link)
    | .ok net =>
      let suite := Suite.plain target fixture wait
      let (report, session) := (suite.run (net.client node)).run (Session.start link)
      (if report.isSuccess then exitPassed else exitFailed, log ++ session.log.toList,
        some report, session.memory)

/-- Does what the arguments ask for. The setting of the log is read before them. -/
def run {ν : Type} (node : Rpc.Node ν) (files : Files) (env : Environment)
    (arguments : List String) (link : Rpc.Link ν) : Result ν :=
  match LogFilter.ofEnvironment? env with
  | none => ⟨exitStopped, [], link⟩
  | some filter =>
    match read arguments env with
    | .help => ⟨exitPassed, [helpText env], link⟩
    | .version => ⟨exitPassed, [versionText], link⟩
    | .usageError => ⟨exitRefused, [], link⟩
    | .run options =>
      let (exit, log, report, link) := runChecks node files env options link
      let shown := (log.filter filter.shows).map shownLine
      ⟨exit, shown ++ (report.map (·.text)).toList, link⟩

end Devnet.CommandLine
