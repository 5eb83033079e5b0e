import Devnet.CommandLine.Run
import Devnet.Proofs.Json.Written
import Devnet.Proofs.ReportText
import Devnet.Proofs.Rpc.Steps
import Devnet.Proofs.RunParts

namespace Devnet.CommandLine

open Rpc

variable {ν : Type}

/-- The configuration that a run starts from. -/
def configuration (files : Files) (env : Environment) (options : Options) :
    Except CheckError Config :=
  match options.config with
  | some path => (Config.load files path).1
  | none => (Config.loadDefault files env).1

/-- The waiting times of a run; a timeout among the arguments comes before the configured one. -/
def Options.wait (options : Options) (config : Config) : WaitPolicy :=
  match options.timeoutSecs with
  | some n => { config.waitPolicy with timeout := .ofSeconds n.toNat }
  | none => config.waitPolicy

/-- What the checks are run with. -/
structure Setup (ν : Type) where
  config : Config
  target : Target
  fixture : Fixture
  net : Network
  /-- The link as connecting has left it. -/
  link : Link ν

/-- The report of the checks. -/
def Setup.report (s : Setup ν) (node : Node ν) (options : Options) : Report :=
  (((Suite.plain s.target s.fixture (options.wait s.config)).run (s.net.client node)).run
    (Session.start s.link)).1

/-- Everything before the checks succeeds. -/
structure Setup.Reached (s : Setup ν) (node : Node ν) (files : Files) (env : Environment)
    (options : Options) (link : Link ν) : Prop where
  loaded : configuration files env options = .ok s.config
  listed : s.config.target options.network = .ok s.target
  expected : s.config.parsedFixture = .ok s.fixture
  connected : (connect node s.target env).run link = (.ok s.net, s.link)

section Stages

variable {node : Node ν} {files : Files} {env : Environment} {options : Options} {link : Link ν}

theorem prepare_fst (files : Files) (env : Environment) (options : Options) :
    (prepare files env options).1 = do
      let config ← configuration files env options
      let target ← config.target options.network
      let fixture ← config.parsedFixture
      return (target, fixture, options.wait config) := by
  unfold prepare configuration
  cases options.config <;> rfl

theorem prepare_eq_ok_iff {target : Target} {fixture : Fixture} {wait : WaitPolicy} :
    (prepare files env options).1 = .ok (target, fixture, wait) ↔
      ∃ config, configuration files env options = .ok config ∧
        config.target options.network = .ok target ∧ config.parsedFixture = .ok fixture ∧
        options.wait config = wait := by
  simp only [prepare_fst, bind_eq_ok_iff]
  constructor
  · rintro ⟨config, hconfig, target', htarget, fixture', hfixture, hresult⟩
    cases hresult
    exact ⟨config, hconfig, htarget, hfixture, rfl⟩
  · rintro ⟨config, hconfig, htarget, hfixture, rfl⟩
    exact ⟨config, hconfig, target, htarget, fixture, hfixture, rfl⟩

theorem Setup.Reached.prepare_eq {s : Setup ν} (h : s.Reached node files env options link) :
    (prepare files env options).1 = .ok (s.target, s.fixture, options.wait s.config) :=
  prepare_eq_ok_iff.mpr ⟨s.config, h.loaded, h.listed, h.expected, rfl⟩

theorem Setup.Reached.unique {s t : Setup ν} (hs : s.Reached node files env options link)
    (ht : t.Reached node files env options link) : s = t := by
  obtain ⟨config, target, fixture, net, after⟩ := s
  cases hs.loaded.symm.trans ht.loaded
  cases hs.listed.symm.trans ht.listed
  cases hs.expected.symm.trans ht.expected
  cases hs.connected.symm.trans ht.connected
  rfl

/-- How the stages and the checks end: with the exit code, the log, the report if there is one, and
the link. -/
inductive ChecksEnd (node : Node ν) (files : Files) (env : Environment) (options : Options)
    (link : Link ν) : Nat × List LogLine × Option Report × Link ν → Prop where
  | refused {log : List LogLine} {after : Link ν} {sent : List Sent}
      (unreached : ¬∃ s : Setup ν, s.Reached node files env options link)
      (sends : link.Sends node sent after) (asks : AsksChainId sent) :
      ChecksEnd node files env options link (exitRefused, log, none, after)
  | stopped {log : List LogLine} {after : Link ν}
      (unreached : ¬∃ s : Setup ν, s.Reached node files env options link) :
      ChecksEnd node files env options link (exitStopped, log, none, after)
  | checked {s : Setup ν} {log : List LogLine} {after : Link ν}
      (reached : s.Reached node files env options link) :
      ChecksEnd node files env options link
        (if (s.report node options).isSuccess then exitPassed else exitFailed, log,
          some (s.report node options), after)

/-- Without a fault that stops the program, a run is refused before the checks or runs them all. -/
theorem runChecks_ends (node : Node ν) (files : Files) (env : Environment) (options : Options)
    (link : Link ν) :
    ChecksEnd node files env options link (runChecks node files env options link) := by
  unfold runChecks
  rcases hprepare : prepare files env options with ⟨e | ⟨target, fixture, wait⟩, log⟩
  · -- A run that had come further would have been prepared.
    have unreached : ¬∃ s : Setup ν, s.Reached node files env options link := by
      rintro ⟨s, reached⟩
      cases (congrArg Prod.fst hprepare).symm.trans reached.prepare_eq
    exact .refused unreached (.nothing link) allRequests_nil
  · obtain ⟨config, hconfig, htarget, hfixture, rfl⟩ :=
      prepare_eq_ok_iff.mp (congrArg Prod.fst hprepare)
    obtain ⟨sent, hsends, hasks⟩ := connect_asksChainId node target env link
    dsimp only
    rcases hconnect : (connect node target env).run link with ⟨fault | net, after⟩
    · have unreached : ¬∃ s : Setup ν, s.Reached node files env options link := by
        rintro ⟨s, reached⟩
        cases hconfig.symm.trans reached.loaded
        cases htarget.symm.trans reached.listed
        cases hconnect.symm.trans reached.connected
      rw [hconnect] at hsends
      cases fault with
      | check e => exact .refused unreached hsends hasks
      | oversizedChainId => exact .stopped unreached
    · have reached : Setup.Reached ⟨config, target, fixture, net, after⟩ node files env options
          link := ⟨hconfig, htarget, hfixture, hconnect⟩
      dsimp only
      rcases hrun : ((Suite.plain target fixture (options.wait config)).run (net.client node)).run
        (Session.start after) with ⟨report, session⟩
      have hreport : Setup.report ⟨config, target, fixture, net, after⟩ node options = report :=
        congrArg Prod.fst hrun
      dsimp only
      rw [← hreport]
      exact .checked reached

end Stages

/-- The report is the last thing printed, behind log lines; it ends with the counts of its four
outcomes, and the exit code tells whether one has failed. -/
structure Reports (result : Result ν) (report : Report) : Prop where
  exit : result.exit = 0 ∨ result.exit = 1
  printed : ∃ lines : List LogLine, result.printed = lines.map shownLine ++ [report.text]
  counted : ∃ passed failed : Nat, EndsWithLine report.text s!"{passed} passed, {failed} failed" ∧
    failed = report.failures.length ∧ passed + failed = 4 ∧ (result.exit = 0 ↔ failed = 0)

/-- Nothing is printed but log lines, none of which is a report, and the node is asked for nothing
but chain ids. -/
structure Refuses (result : Result ν) (node : Node ν) (link : Link ν) : Prop where
  exit : result.exit = 2
  printed : ∃ lines : List LogLine, result.printed = lines.map shownLine
  unreported : ∀ report : Report, report.text ∉ result.printed
  requests : ∃ sent, link.Sends node sent result.link ∧ AsksChainId sent ∧ submissions sent = []

theorem reports_of_outcomes {result : Result ν} {report : Report} {lines : List LogLine}
    (hfour : report.outcomes.length = 4)
    (hexit : result.exit = if report.isSuccess then exitPassed else exitFailed)
    (hprinted : result.printed = lines.map shownLine ++ [report.text]) :
    Reports result report := by
  have hpassed : result.exit = 0 ↔ report.failures.length = 0 := by
    rw [hexit, List.length_eq_zero_iff, ← Report.isSuccess_iff]
    cases report.isSuccess <;> decide
  have hcode : result.exit = 0 ∨ result.exit = 1 := by
    rw [hexit]
    cases report.isSuccess <;> decide
  have hle := hfour ▸ report.failures_length_le
  exact ⟨hcode, ⟨lines, hprinted⟩, 4 - report.failures.length, report.failures.length,
    hfour ▸ report.endsWithSummary, rfl, Nat.sub_add_cancel hle, hpassed⟩

theorem refuses_of_lines {result : Result ν} {node : Node ν} {link : Link ν} {sent : List Sent}
    {lines : List LogLine} (hexit : result.exit = exitRefused)
    (hprinted : result.printed = lines.map shownLine) (hsends : link.Sends node sent result.link)
    (hasks : AsksChainId sent) : Refuses result node link := by
  refine ⟨hexit, ⟨lines, hprinted⟩, fun report hmem => ?_, sent, hsends, hasks,
    hasks.quiet.submissions_eq⟩
  rw [hprinted] at hmem
  obtain ⟨l, _, hl⟩ := List.mem_map.mp hmem
  exact shownLine_ne_text l report hl

theorem Setup.report_length (s : Setup ν) (node : Node ν) (options : Options) :
    (s.report node options).outcomes.length = 4 := by
  rw [report, Suite.run_eq_parts]
  rfl

section Run

variable {node : Node ν} {files : Files} {env : Environment} {arguments : List String}
  {options : Options} {link : Link ν}

/-- A run that is not stopped has come to the checks and reports on them, or refuses. -/
theorem run_ends (hread : read arguments env = .run options)
    (hrunning : (run node files env arguments link).exit ≠ exitStopped) :
    (∃ s : Setup ν, s.Reached node files env options link ∧
      Reports (run node files env arguments link) (s.report node options)) ∨
    (¬∃ s : Setup ν, s.Reached node files env options link) ∧
      Refuses (run node files env arguments link) node link := by
  unfold run at hrunning ⊢
  cases hfilter : LogFilter.ofEnvironment? env with
  | none =>
    rw [hfilter] at hrunning
    exact absurd rfl hrunning
  | some filter =>
    simp only [hfilter, hread] at hrunning ⊢
    have hends := runChecks_ends node files env options link
    rcases hchecks : runChecks node files env options link with ⟨exit, log, report, after⟩
    rw [hchecks] at hends
    simp only [hchecks] at hrunning
    cases hends with
    | stopped _ => exact absurd rfl hrunning
    | refused unreached sends asks =>
      exact .inr ⟨unreached, refuses_of_lines rfl (List.append_nil _) sends asks⟩
    | checked reached =>
      exact .inl ⟨_, reached, reports_of_outcomes (Setup.report_length ..) rfl rfl⟩

/-- The exit code is 0 or 1 exactly if a run comes to the checks, and 2 otherwise. In the first case
the report is printed, and the code is 0 if and only if no check has failed; otherwise there is no
report, and the node has been asked for nothing but chain ids. -/
theorem run_reports_or_refuses (hread : read arguments env = .run options)
    (hrunning : (run node files env arguments link).exit ≠ exitStopped) :
    ((run node files env arguments link).exit = 0 ∨ (run node files env arguments link).exit = 1 ↔
      ∃ s : Setup ν, s.Reached node files env options link) ∧
    (∀ s : Setup ν, s.Reached node files env options link →
      Reports (run node files env arguments link) (s.report node options)) ∧
    ((¬∃ s : Setup ν, s.Reached node files env options link) →
      Refuses (run node files env arguments link) node link) := by
  rcases run_ends hread hrunning with ⟨s, reached, reports⟩ | ⟨unreached, refuses⟩
  · refine ⟨⟨fun _ => ⟨s, reached⟩, fun _ => reports.exit⟩, fun t ht => ?_,
      fun h => absurd ⟨s, reached⟩ h⟩
    rwa [← reached.unique ht]
  · refine ⟨⟨fun hexit => ?_, fun h => absurd h unreached⟩, fun t ht => absurd ⟨t, ht⟩ unreached,
      fun _ => refuses⟩
    rw [refuses.exit] at hexit
    cases hexit <;> contradiction

/-- The checks of a run end by themselves, whatever they find. -/
theorem run_not_stopped {filter : LogFilter} {s : Setup ν}
    (hfilter : LogFilter.ofEnvironment? env = some filter)
    (hread : read arguments env = .run options)
    (reached : s.Reached node files env options link) :
    (run node files env arguments link).exit ≠ exitStopped := by
  have hends := runChecks_ends node files env options link
  rcases hchecks : runChecks node files env options link with ⟨exit, log, report, after⟩
  rw [hchecks] at hends
  simp only [run, hfilter, hread, hchecks]
  cases hends with
  | stopped unreached | refused unreached => exact absurd ⟨s, reached⟩ unreached
  | @checked t =>
    cases (t.report node options).isSuccess <;> decide

end Run

def noFiles : Files := ⟨fun _ => .error .notFound⟩

/-- Without arguments, variables or files the checks are run against the local endpoint. -/
theorem default_reached : ∃ s : Setup Unit,
    s.Reached (Node.constant "") noFiles ⟨[]⟩ ⟨"hardhat", none, none⟩ ⟨(), #[]⟩ := by
  have hparsed : Config.builtIn.parsedFixture.toBool = true := by decide +kernel
  cases hfixture : Config.builtIn.parsedFixture with
  | error e =>
    rw [hfixture] at hparsed
    cases hparsed
  | ok fixture =>
    exact ⟨⟨.builtIn, .ofNetwork .hardhat, fixture, ⟨localUrl, .node⟩, ⟨(), #[]⟩⟩, rfl, rfl,
      hfixture, connect_ofNetwork ..⟩

/-- The usual network is checked and reported on; a network that nobody knows is refused. -/
theorem run_reports_or_refuses_without_files :
    (∃ s : Setup Unit,
      s.Reached (Node.constant "") noFiles ⟨[]⟩ ⟨"hardhat", none, none⟩ ⟨(), #[]⟩ ∧
      Reports (run (Node.constant "") noFiles ⟨[]⟩ [] ⟨(), #[]⟩)
        (s.report (Node.constant "") ⟨"hardhat", none, none⟩)) ∧
    Refuses (run (Node.constant "") noFiles ⟨[]⟩ ["--network", "mainnet"] ⟨(), #[]⟩)
      (Node.constant "") (⟨(), #[]⟩ : Link Unit) := by
  obtain ⟨s, reached⟩ := default_reached
  have hplain : read [] ⟨[]⟩ = .run ⟨"hardhat", none, none⟩ := rfl
  have hread : read ["--network", "mainnet"] ⟨[]⟩ = .run ⟨"mainnet", none, none⟩ := rfl
  have hexit : (run (Node.constant "") noFiles ⟨[]⟩ ["--network", "mainnet"]
    (⟨(), #[]⟩ : Link Unit)).exit = 2 := by decide +kernel
  have hrunning : (run (Node.constant "") noFiles ⟨[]⟩ ["--network", "mainnet"]
    (⟨(), #[]⟩ : Link Unit)).exit ≠ exitStopped := by
    rw [hexit]
    decide
  have hdefault := run_reports_or_refuses hplain (run_not_stopped rfl hplain reached)
  have hunknown := run_reports_or_refuses hread hrunning
  refine ⟨⟨s, reached, hdefault.2.1 s reached⟩, hunknown.2.2 fun h => ?_⟩
  have hcode := hunknown.1.mpr h
  rw [hexit] at hcode
  cases hcode <;> contradiction

end Devnet.CommandLine
