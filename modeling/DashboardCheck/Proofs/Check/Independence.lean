import DashboardCheck.Proofs.Check.Preparation
import DashboardCheck.Proofs.Check.Suite
import DashboardCheck.Proofs.Check.Users
import Mathlib.Data.List.Defs

/-!
# Scenarios do not depend on each other

A scenario may make users, and single sign-on changes settings of the dashboard. Neither is met by a
later scenario: its users are new, and of the settings it reads package sources only. So its verdict
is the same whatever was run before, up to the name of the user that was made for it.
-/
namespace DashboardCheck

open Program (Gives Settled Keeps)

/-- A verdict, up to the name of a user. -/
inductive Verdict.Pattern where
  | fixed (verdict : Verdict)
  /-- A failure with a message that names the user between two texts. -/
  | naming (before after : String)

def Verdict.Pattern.fill (user : String) : Pattern → Verdict
  | fixed verdict => verdict
  | naming before after => .failed (before ++ user ++ after)

namespace Context

variable {ctx : Context} {m : Mock} {replies : Http.Replies} {fault : Entry → Option FileError}
  {setting : Setting} {world : World}

/-- No scenario breaks what the others rely on. -/
theorem carryOut_keeps (scenario : Scenario) :
    Keeps (ctx.Steady m replies fault) (ctx.carryOut scenario) := by
  have hpassed : Keeps (ctx.Steady m replies fault) (pure Verdict.passed : Program CheckError _) :=
    (Program.gives_pure _).keeps
  cases scenario with
  | dashboardUnits => exact verifyTopology_settled.keeps.bind fun _ => hpassed
  | createUser => exact checkCreateUser_keeps.bind fun _ => hpassed
  | accessDashboard =>
    refine (requireActive_settled _).keeps.bind fun url => ?_
    exact (accessDashboard_keeps url).bind fun _ => hpassed
  | cephKeys => exact (checkExpectedKeys_settled _).keeps.bind fun _ => hpassed
  | saml =>
    refine checkSaml_settled.keeps.bind fun check => ?_
    cases check with
    | verified url redirect => exact hpassed
    | skipped release minimum => exact (Program.gives_pure _).keeps

/-- The passwords of new users have no say in the verdict, or they are given alike. -/
def Comparable (m : Mock) : Scenario → Prop
  | .createUser | .accessDashboard => m.PasswordsAlike
  | _ => True

/-- Such a scenario is settled, or it always fails with one message up to the name of the user. -/
theorem carryOut_alike (honce : m.CompletesOnce) {scenario : Scenario} (h : Comparable m scenario) :
    Settled (ctx.Steady m replies fault) (ctx.carryOut scenario) ∨
      ctx.FailsNaming m replies fault (ctx.carryOut scenario) := by
  cases scenario with
  | dashboardUnits => exact .inl (verifyTopology_settled.bind fun _ => Program.settled_pure _)
  | createUser =>
    exact .inl ((checkCreateUser_settled honce h).bind fun _ => Program.settled_pure _)
  | accessDashboard =>
    obtain ⟨active, hactive⟩ : Settled (ctx.Steady m replies fault)
      (ctx.requireActive Scenario.accessDashboard.name) := requireActive_settled _
    cases active with
    | error e => exact .inl hactive.bind_error.settled
    | ok url =>
      have hlogin : Settled (ctx.Steady m replies fault) (ctx.accessDashboard url) ∨
          ctx.FailsNaming m replies fault (ctx.accessDashboard url) :=
        accessDashboard_alike honce h url
      rcases hlogin with hlogin | hlogin
      · obtain ⟨result, hrest⟩ := hlogin.bind fun _ => Program.settled_pure Verdict.passed
        exact .inl (hactive.bind_ok hrest).settled
      · exact .inr (hlogin.bind.after_ok hactive)
  | cephKeys => exact .inl ((checkExpectedKeys_settled _).bind fun _ => Program.settled_pure _)
  | saml =>
    refine .inl (checkSaml_settled.bind fun check => ?_)
    cases check with
    | verified url redirect => exact Program.settled_pure _
    | skipped release minimum => exact Program.settled_pure _

/-- An entry tells of a scenario as a pattern does, if verdicts on the scenario can be compared. -/
structure Tells (ctx : Context) (m : Mock) (setting : Setting)
    (outcome : Scenario → Verdict.Pattern) (scenario : Scenario) (entry : ScenarioReport) :
    Prop where
  name : entry.name = scenario.name
  verdict : Comparable m scenario →
    ∃ n, entry.verdict = (outcome scenario).fill (ctx.username setting n)

/-- There is one pattern for each scenario that fits its entry in every report. -/
theorem entry_alike (ctx : Context) (replies : Http.Replies)
    (fault : Entry → Option FileError) (honce : m.CompletesOnce) :
    ∃ outcome : Scenario → Verdict.Pattern, ∀ scenario setting world,
      ctx.Steady m replies fault setting world.trace →
        ctx.Tells m setting outcome scenario (ctx.entry setting scenario world) := by
  have hscenario : ∀ scenario : Scenario, ∃ pattern : Verdict.Pattern, ∀ setting world,
      ctx.Steady m replies fault setting world.trace → Comparable m scenario →
        ∃ n, (ctx.entry setting scenario world).verdict =
          pattern.fill (ctx.username setting n) := by
    intro scenario
    by_cases hcomparable : Comparable m scenario
    · have halike : Settled (ctx.Steady m replies fault) (ctx.carryOut scenario) ∨
          ctx.FailsNaming m replies fault (ctx.carryOut scenario) :=
        carryOut_alike honce hcomparable
      rcases halike with ⟨result, hgives⟩ | ⟨name, before, after, hfails⟩
      · refine ⟨.fixed (verdictOf result), fun setting world h _ => ⟨0, ?_⟩⟩
        obtain ⟨finish, hstart, -⟩ := hgives setting world h
        rw [entry, hstart]
        rfl
      · refine ⟨.naming before after, fun setting world h _ => ?_⟩
        obtain ⟨n, finish, hstart, -⟩ := hfails setting world h
        refine ⟨n, ?_⟩
        rw [entry, hstart]
        rfl
    · -- nothing is said of such a scenario, so any pattern will do
      exact ⟨.fixed .passed, fun _ _ _ h => absurd h hcomparable⟩
  obtain ⟨outcome, houtcome⟩ := Classical.skolem.mp hscenario
  exact ⟨outcome, fun scenario setting world h => ⟨rfl, houtcome scenario setting world h⟩⟩

theorem Steady.afterScenario (h : ctx.Steady m replies fault setting world.trace)
    (scenario : Scenario) :
    ctx.Steady m replies fault setting (ctx.afterScenario setting scenario world).trace :=
  memoryless.quiet (.ended _) trivial (carryOut_keeps scenario setting world h)

/-- Runs one after the other, each with its own names. A run with a wrong name does not keep the
others from being made. -/
def runs (ctx : Context) :
    List (List String) → Program CheckError (List (Except CheckError SuiteReport))
  | [] => return []
  | names :: rest => do
    let result ← (ctx.run names).attempt
    let more ← ctx.runs rest
    return result :: more

/-- What comes of a run. The entries tell of the scenarios that were asked for as the patterns do;
only a wrong name ends it early. -/
structure TellsAll (ctx : Context) (m : Mock) (setting : Setting)
    (outcome : Scenario → Verdict.Pattern) (names : List String)
    (result : Except CheckError SuiteReport) : Prop where
  unknown : ∀ e, Scenario.select names = .error e → result = .error e
  known : ∀ scenarios, Scenario.select names = .ok scenarios → ∃ report, result = .ok report ∧
    List.Forall₂ (ctx.Tells m setting outcome) scenarios report.scenarios

section Runs

variable {outcome : Scenario → Verdict.Pattern}
  (hentry : ∀ scenario setting world, ctx.Steady m replies fault setting world.trace →
    ctx.Tells m setting outcome scenario (ctx.entry setting scenario world))

include hentry

/-- In a steady setting scenarios that run one after the other tell what each tells alone, and the
setting stays steady. -/
theorem runAll_tells (scenarios : List Scenario) (report : SuiteReport)
    (h : ctx.Steady m replies fault setting world.trace) :
    ∃ entries result finish,
      (ctx.runAll scenarios report).start setting world = (.ok result, finish) ∧
      result.scenarios = report.scenarios ++ entries ∧
      List.Forall₂ (ctx.Tells m setting outcome) scenarios entries ∧
      ctx.Steady m replies fault setting finish.trace := by
  induction scenarios generalizing report world with
  | nil => exact ⟨[], report, world, rfl, by simp, .nil, h⟩
  | cons scenario rest ih =>
    obtain ⟨entries, result, finish, hrun, hscenarios, hrest, hfinish⟩ :=
      ih (report.push (ctx.entry setting scenario world)) (h.afterScenario scenario)
    refine ⟨ctx.entry setting scenario world :: entries, result, finish, ?_, ?_,
      .cons (hentry scenario setting world h) hrest, hfinish⟩
    · rw [start_runAll_cons, hrun]
    · simpa using hscenarios

/-- A whole run in a steady setting: what it tells of each scenario does not depend on the others.
-/
theorem run_tells (names : List String) (h : ctx.Steady m replies fault setting world.trace) :
    ∃ result finish, (ctx.run names).start setting world = (result, finish) ∧
      ctx.TellsAll m setting outcome names result ∧
        ctx.Steady m replies fault setting finish.trace := by
  cases hselect : Scenario.select names with
  | error e =>
    refine ⟨.error e, world, ?_, ⟨?_, ?_⟩, h⟩
    · rw [run, hselect]
      rfl
    · intro e' he'
      rw [hselect] at he'
      cases he'
      rfl
    · intro scenarios hscenarios
      rw [hselect] at hscenarios
      cases hscenarios
  | ok scenarios =>
    obtain ⟨entries, result, finish, hrun, hentries, htells, hfinish⟩ :=
      runAll_tells hentry scenarios .empty h
    refine ⟨.ok result, finish, ?_, ⟨?_, ?_⟩, hfinish⟩
    · rw [run, hselect, Program.start_bind_ok setting world
        (Program.start_ofExcept setting world _), Program.start_bind_ok setting world hrun]
      rfl
    · intro e he
      rw [hselect] at he
      cases he
    · intro scenarios' hscenarios
      rw [hselect] at hscenarios
      cases hscenarios
      refine ⟨result, rfl, ?_⟩
      rw [hentries]
      simpa [SuiteReport.empty] using htells

/-- What one run leaves behind has no say in the next. -/
theorem runs_tell (filters : List (List String))
    (h : ctx.Steady m replies fault setting world.trace) :
    ∃ results finish, (ctx.runs filters).start setting world = (.ok results, finish) ∧
      List.Forall₂ (ctx.TellsAll m setting outcome) filters results := by
  induction filters generalizing world with
  | nil => exact ⟨[], world, rfl, .nil⟩
  | cons names rest ih =>
    obtain ⟨result, after, hrun, htells, hafter⟩ := run_tells hentry names h
    obtain ⟨results, finish, hrest, hall⟩ := ih hafter
    refine ⟨result :: results, finish, ?_, .cons htells hall⟩
    have hattempt : ((ctx.run names).attempt : Program CheckError _).start setting world =
        (.ok result, after) := by
      rw [Program.start_attempt, hrun]
    rw [runs, Program.start_bind_ok setting world hattempt,
      Program.start_bind_ok setting after hrest]
    rfl

end Runs

theorem standsPreparation_steady : StandsPreparation (ctx.Steady m replies fault) := by
  intro setting trace event hevent h
  cases event with
  | called call =>
    cases call with
    | units application => exact h.called (.units application) trivial (by simp)
    | copy unit remotePath localPath =>
      exact h.called (.copy unit remotePath localPath) trivial (by simp)
    | _ => exact hevent.elim
  | made path kind => exact memoryless.quiet (.made path kind) trivial h
  | read path => exact memoryless.quiet (.read path) trivial h
  | _ => exact hevent.elim

/-- A suite that was just set up, with an orchestrator in memory, a network and a file system
without memory, and names that never repeat. -/
structure Begins (ctx : Context) (m : Mock) (replies : Http.Replies)
    (fault : Entry → Option FileError) (setting : Setting)
    (world : World) : Prop where
  orchestrator : setting.orchestrator = m.orchestrator
  network : ∀ world limit request,
    setting.network world limit request = replies limit request.method request.url
  temps : ∀ world entry, setting.tempFault world entry = fault entry
  distinct : ∀ n n', setting.name n = setting.name n' → n = n'
  unused : ∀ n, ∀ action ∈ m.actions, action.username ≠ ctx.username setting n
  built : ∃ start : World, start.trace = [] ∧
    (build ctx.config).start setting start = (.ok ctx, world)

theorem Begins.steady (h : ctx.Begins m replies fault setting world)
    (hcommands : m.CommandsFixed) :
    ctx.Steady m replies fault setting world.trace := by
  obtain ⟨start, hempty, hbuilt⟩ := h.built
  have hstart : ctx.Steady m replies fault setting start.trace := by
    rw [hempty]
    exact ⟨h.orchestrator, h.network, h.temps, h.distinct, hcommands, .refl m,
      fun n _ => h.unused n⟩
  simpa [hbuilt] using build_keeps standsPreparation_steady ctx.config setting start hstart

theorem select_name (scenario : Scenario) : Scenario.select [scenario.name] = .ok [scenario] := by
  cases scenario <;> decide +kernel

/-- The verdict on a scenario is one and the same, up to the name of the user that is made for it,
in all runs of any sequence of runs of a suite and in a run of the scenario alone. -/
theorem scenarios_independent (ctx : Context) (m : Mock) (replies : Http.Replies)
    (fault : Entry → Option FileError) (honce : m.CompletesOnce)
    (hcommands : m.CommandsFixed) :
    ∃ outcome : Scenario → Verdict.Pattern,
      ∀ setting world, ctx.Begins m replies fault setting world →
      (∀ filters, ∃ results finish,
        (ctx.runs filters).start setting world = (.ok results, finish) ∧
          List.Forall₂ (ctx.TellsAll m setting outcome) filters results) ∧
      ∀ scenario, ∃ report entry finish,
        (ctx.run [scenario.name]).start setting world = (.ok report, finish) ∧
          report.scenarios = [entry] ∧ ctx.Tells m setting outcome scenario entry := by
  obtain ⟨outcome, hentry⟩ := entry_alike ctx replies fault honce
  refine ⟨outcome, fun setting world h => ⟨fun filters => ?_, fun scenario => ?_⟩⟩
  · exact runs_tell hentry filters (h.steady hcommands)
  · obtain ⟨result, finish, hrun, htells, -⟩ :=
      run_tells hentry [scenario.name] (h.steady hcommands)
    obtain ⟨report, rfl, hentries⟩ := htells.known [scenario] (select_name scenario)
    generalize hscenarios : report.scenarios = entries at hentries
    cases hentries with
    | cons htells hrest =>
      cases hrest with
      | nil => exact ⟨report, _, finish, hrun, hscenarios, htells⟩

theorem markedSuite_begins {m : Mock} (hnone : m.actions = []) :
    markedSuite.Begins m (fun _ _ _ => .unconnected) (fun _ => none)
      { offline with orchestrator := m.orchestrator } (markedFile.after [.read "ca.crt"]) where
  orchestrator := rfl
  network := fun _ _ _ => rfl
  temps := fun _ _ => rfl
  distinct := by
    intro n n' h
    simpa [offline] using congrArg String.length h
  unused := by simp [hnone]
  built := ⟨markedFile, rfl, start_build_marked _⟩

/-- A dashboard where each user can be made once. -/
def registering : Mock :=
  { Mock.empty.withApplications [markedSuite.application] with onAction := some Mock.register }

/-- The register makes a user once, with a password that the name decides, and then refuses the
name. -/
theorem register_eq (earlier : List ActionCall) (call : ActionCall) :
    Mock.register earlier call =
      if earlier.any fun c => c.username == call.username then
        ⟨call.application ++ "/0", .failed, .object [], some "User already exists"⟩
      else ⟨call.application ++ "/0", .completed,
        .object [("password", .string ("pw-" ++ call.username))], none⟩ := rfl

theorem registering_completesOnce : registering.CompletesOnce := by
  intro handler hhandler earlier call
  obtain rfl : Mock.register = handler := by simpa [registering] using hhandler
  by_cases hold : (earlier.any fun c => c.username == call.username) = true
  · rw [if_pos hold, register_eq, if_pos hold]
  · rw [if_neg hold, register_eq, if_neg hold]

theorem registering_passwordsAlike : registering.PasswordsAlike := by
  intro handler hhandler
  obtain rfl : Mock.register = handler := by simpa [registering] using hhandler
  refine ⟨true, fun earlier call hstatus => ?_⟩
  by_cases hold : (earlier.any fun c => c.username == call.username) = true
  · rw [register_eq, if_pos hold] at hstatus
    cases hstatus
  · rw [register_eq, if_neg hold]
    simp [ActionOutcome.hasPassword, ActionOutcome.result?, Json.Value.get?, Json.Value.text?,
      Dict.get?_cons, Option.filter]

theorem registering_commandsFixed : registering.CommandsFixed := by
  intro handler hhandler
  cases hhandler

/-- All runs against a register that refuses known names tell alike. -/
theorem scenarios_independent_registering :
    registering.CompletesOnce ∧ registering.CommandsFixed ∧ registering.PasswordsAlike ∧
      ∃ outcome : Scenario → Verdict.Pattern, ∀ filters, ∃ results finish,
        (markedSuite.runs filters).start { offline with orchestrator := registering.orchestrator }
          (markedFile.after [.read "ca.crt"]) = (.ok results, finish) ∧
        List.Forall₂ (markedSuite.TellsAll registering
          { offline with orchestrator := registering.orchestrator } outcome) filters results := by
  refine ⟨registering_completesOnce, registering_commandsFixed, registering_passwordsAlike, ?_⟩
  obtain ⟨outcome, htells⟩ := scenarios_independent markedSuite registering
    (fun _ _ _ => .unconnected) (fun _ => none) registering_completesOnce registering_commandsFixed
  exact ⟨outcome, (htells _ _ (markedSuite_begins rfl)).1⟩

/-- What comes of making users, if each can be made once but only the very first is given a
password. -/
def favour (earlier : List ActionCall) (call : ActionCall) : ActionOutcome :=
  if earlier.any fun c => c.username == call.username then ⟨"", .failed, .null, none⟩
  else if earlier.isEmpty then ⟨"", .completed, .object [("password", .string "pw")], none⟩
  else ⟨"", .completed, .object [], none⟩

def favouring : Mock :=
  { Mock.empty.withApplications [markedSuite.application] with onAction := some favour }

theorem favouring_completesOnce : favouring.CompletesOnce := by
  intro handler hhandler earlier call
  obtain rfl : favour = handler := by simpa [favouring] using hhandler
  by_cases hold : (earlier.any fun c => c.username == call.username) = true
  · rw [if_pos hold, favour, if_pos hold]
  · rw [if_neg hold, favour, if_neg hold]
    cases earlier.isEmpty <;> rfl

def verdicts : Except CheckError SuiteReport → List Verdict
  | .ok report => report.scenarios.map ScenarioReport.verdict
  | .error _ => []

/-- Though each user can be made once, a scenario that makes one passes first and then fails. -/
theorem verdicts_differ_with_passwords :
    favouring.CompletesOnce ∧ favouring.CommandsFixed ∧
      markedSuite.Begins favouring (fun _ _ _ => .unconnected) (fun _ => none)
        { offline with orchestrator := favouring.orchestrator }
        (markedFile.after [.read "ca.crt"]) ∧
      ((markedSuite.runs [["create_user"], ["create_user"]]).start
        { offline with orchestrator := favouring.orchestrator }
        (markedFile.after [.read "ca.crt"])).1.map (List.map verdicts) =
        .ok [[.passed], [.failed "add-user completed without a password"]] := by
  refine ⟨favouring_completesOnce, ?_, markedSuite_begins rfl, ?_⟩
  · intro handler hhandler
    cases hhandler
  decide +kernel

end Context

end DashboardCheck
