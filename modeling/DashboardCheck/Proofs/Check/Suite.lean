import DashboardCheck.Check.Suite
import DashboardCheck.Proofs.Check.Selection
import DashboardCheck.Proofs.World

/-!
# Reports on runs

A run of scenarios always ends with a report. It has one entry for each scenario, in order, and its
counts are those of its entries. A wrong name is the only thing that keeps a run from beginning.
-/
namespace DashboardCheck

def Verdict.isFailed : Verdict → Bool
  | .failed _ => true
  | _ => false

namespace SuiteReport

def failures (r : SuiteReport) : Nat := r.scenarios.countP fun entry => entry.verdict.isFailed

/-- The failures that a report counts are those among its entries. -/
def Tallied (r : SuiteReport) : Prop := r.failed = r.failures

/-- How many entries of a report have a verdict of this name. -/
def count (r : SuiteReport) (label : String) : Nat :=
  r.scenarios.countP fun entry => entry.verdict.label == label

/-- The numbers of a report are those of its entries. -/
structure Counted (r : SuiteReport) : Prop where
  passed : r.passed = r.count "passed"
  failed : r.failed = r.count "failed"
  skipped : r.skipped = r.count "skipped"

theorem counted_empty : empty.Counted := ⟨rfl, rfl, rfl⟩

theorem Counted.push {r : SuiteReport} (h : r.Counted) (entry : ScenarioReport) :
    (r.push entry).Counted := by
  obtain ⟨hpassed, hfailed, hskipped⟩ := h
  rw [count] at hpassed hfailed hskipped
  constructor <;> cases hverdict : entry.verdict <;>
    simp [SuiteReport.push, count, hverdict, Verdict.label, hpassed, hfailed, hskipped]

theorem Counted.tallied {r : SuiteReport} (h : r.Counted) : r.Tallied := by
  rw [Tallied, h.failed, failures, count]
  refine List.countP_congr fun entry _ => ?_
  cases entry.verdict <;> simp [Verdict.label, Verdict.isFailed]

/-- Each entry is counted once. -/
theorem Counted.total {r : SuiteReport} (h : r.Counted) :
    r.passed + r.failed + r.skipped = r.scenarios.length := by
  rw [h.passed, h.failed, h.skipped]
  simp only [count]
  induction r.scenarios with
  | nil => rfl
  | cons entry rest ih =>
    rw [List.length_cons, ← ih]
    cases hverdict : entry.verdict <;> simp [hverdict, Verdict.label] <;> omega

theorem isSuccess_iff {r : SuiteReport} (h : r.Tallied) :
    r.isSuccess = true ↔ ∀ entry ∈ r.scenarios, entry.verdict.isFailed = false := by
  rw [isSuccess, h, failures]
  simp [List.countP_eq_zero]

@[simp] theorem push_scenarios (r : SuiteReport) (entry : ScenarioReport) :
    (r.push entry).scenarios = r.scenarios ++ [entry] := by
  cases h : entry.verdict <;> simp [push, h]

def ofEntries (entries : List ScenarioReport) : SuiteReport := entries.foldl push empty

theorem foldl_push_scenarios (r : SuiteReport) (entries : List ScenarioReport) :
    (entries.foldl push r).scenarios = r.scenarios ++ entries := by
  induction entries generalizing r with
  | nil => simp
  | cons entry rest ih => simp [ih]

theorem Counted.foldl_push {r : SuiteReport} (h : r.Counted) (entries : List ScenarioReport) :
    (entries.foldl SuiteReport.push r).Counted := by
  induction entries generalizing r with
  | nil => exact h
  | cons entry rest ih => exact ih (h.push entry)

@[simp] theorem ofEntries_scenarios (entries : List ScenarioReport) :
    (ofEntries entries).scenarios = entries :=
  foldl_push_scenarios empty entries

theorem counted_ofEntries (entries : List ScenarioReport) : (ofEntries entries).Counted :=
  counted_empty.foldl_push entries

end SuiteReport

namespace Context

variable (ctx : Context) (setting : Setting)

def entry (scenario : Scenario) (world : World) : ScenarioReport where
  name := scenario.name
  verdict := verdictOf ((ctx.carryOut scenario).start setting world).1
  durationMs :=
    setting.clock ((ctx.carryOut scenario).start setting world).2 - setting.clock world

def afterScenario (scenario : Scenario) (world : World) : World :=
  ((ctx.carryOut scenario).start setting world).2.after
    [.ended (ctx.entry setting scenario world).verdict.label]

/-- Whatever a scenario does, there is an entry on it. -/
theorem start_runScenario (scenario : Scenario) (world : World) :
    (ctx.runScenario scenario).start setting world =
      (.ok (ctx.entry setting scenario world), ctx.afterScenario setting scenario world) := rfl

/-- The suite runs the first scenario, enters it in the report and goes on in the world after it. -/
theorem start_runAll_cons (scenario : Scenario) (rest : List Scenario) (report : SuiteReport)
    (world : World) :
    (ctx.runAll (scenario :: rest) report).start setting world =
      (ctx.runAll rest (report.push (ctx.entry setting scenario world))).start setting
        (ctx.afterScenario setting scenario world) := by
  rw [runAll, Program.start_bind_ok setting world (ctx.start_runScenario setting scenario world)]

def entries : List Scenario → World → List ScenarioReport
  | [], _ => []
  | scenario :: rest, world =>
    ctx.entry setting scenario world :: entries rest (ctx.afterScenario setting scenario world)

def afterScenarios (scenarios : List Scenario) (world : World) : World :=
  scenarios.foldl (fun world scenario => ctx.afterScenario setting scenario world) world

/-- There is one entry for each scenario. -/
theorem entries_names (scenarios : List Scenario) (world : World) :
    (ctx.entries setting scenarios world).map ScenarioReport.name =
      scenarios.map Scenario.name := by
  induction scenarios generalizing world with
  | nil => rfl
  | cons scenario rest ih => simp [entries, entry, ih]

/-- A run of scenarios ends with a report that adds the entries on them, whatever they are. -/
theorem start_runAll (scenarios : List Scenario) (report : SuiteReport) (world : World) :
    (ctx.runAll scenarios report).start setting world =
      (.ok ((ctx.entries setting scenarios world).foldl SuiteReport.push report),
        ctx.afterScenarios setting scenarios world) := by
  induction scenarios generalizing report world with
  | nil => rfl
  | cons scenario rest ih =>
    rw [start_runAll_cons, ih]
    rfl

/-- A run of known names ends with the report on the scenarios that they select. -/
theorem start_run {names : List String} {scenarios : List Scenario} (world : World)
    (h : Scenario.select names = .ok scenarios) :
    (ctx.run names).start setting world =
      (.ok (.ofEntries (ctx.entries setting scenarios world)),
        ctx.afterScenarios setting scenarios world) := by
  rw [run, h, Program.start_bind_ok setting world (Program.start_ofExcept setting world _),
    Program.start_bind_ok setting world (ctx.start_runAll setting scenarios .empty world)]
  rfl

/-- A run with a wrong name does nothing. -/
theorem start_run_error {names : List String} {e : CheckError} (world : World)
    (h : Scenario.select names = .error e) :
    (ctx.run names).start setting world = (.error e, world) := by
  rw [run, h]
  rfl

end Context

/-- With a local file, setting up reads the file and does nothing else. -/
theorem Context.start_build_file {config : Config} {pem : Text.Bytes} {ca : Certificate}
    {http : Http.Client} (setting : Setting) (world : World)
    (hlocal : config.dashboard.caCert.isEmpty = false)
    (hread : world.disk.read config.dashboard.caCert = .ok pem)
    (hcheck : Certificate.check config.dashboard.caCert pem = .ok ca)
    (hmake : Http.Client.make (some ca.pem) config.requestTimeout (.ofConfig config.retry) =
      .ok http) :
    (build config).start setting world =
      (.ok ⟨config, http, ca⟩, world.after [.read config.dashboard.caCert]) := by
  have hpem : ((Program.readFile config.dashboard.caCert).mapError fun e =>
      CheckError.certificate config.dashboard.caCert e.message).start setting world =
        (.ok pem, world.after [.read config.dashboard.caCert]) := by
    rw [Program.start_mapError, Program.start, Program.readFile, hread]
    rfl
  have hca : (Certificate.resolve config.dashboard).start setting world =
      (.ok ca, world.after [.read config.dashboard.caCert]) := by
    rw [Certificate.resolve, hlocal, if_pos Bool.not_false, Program.start_bind_log,
      Certificate.ofFile, Program.start_bind_ok setting world hpem, Program.start_ofExcept, hcheck]
  rw [build, Program.start_bind_log, Program.start_bind_ok setting world hca, Program.start_bind,
    Program.start_ofExcept, hmake]
  rfl

def offline : Setting where
  orchestrator world _ := (.error (.spawn "" ""), world.disk)
  network _ _ _ := .unconnected
  name n := String.ofList (List.replicate n '0')
  temp _ := ""
  clock _ := 0

/-- A text that has the mark of a certificate, in a line that begins none. -/
def markedPem : Text.Bytes := Text.encode "no -----BEGIN CERTIFICATE-----"

def markedFile : World := ⟨[], .ofFiles ["work"] [("ca.crt", .file markedPem)]⟩

def markedConfig : Config :=
  { Config.default with dashboard := { Config.default.dashboard with caCert := "ca.crt" } }

def markedSuite : Context where
  config := markedConfig
  http := ⟨some markedPem, markedConfig.requestTimeout, .ofConfig markedConfig.retry⟩
  ca := ⟨"ca.crt", markedPem⟩

theorem start_build_marked (setting : Setting) :
    (Context.build markedConfig).start setting markedFile =
      (.ok markedSuite, markedFile.after [.read "ca.crt"]) := by
  have hread : markedFile.disk.read "ca.crt" = .ok markedPem := by decide +kernel
  have hcheck : Certificate.check "ca.crt" markedPem = .ok markedSuite.ca := by decide +kernel
  exact Context.start_build_file setting markedFile (by decide) hread hcheck (by decide +kernel)

end DashboardCheck
