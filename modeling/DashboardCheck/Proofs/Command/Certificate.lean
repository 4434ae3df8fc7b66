import DashboardCheck.Proofs.Check.Certificate
import DashboardCheck.Proofs.Check.Preparation
import DashboardCheck.Proofs.Command.Unreachable
import DashboardCheck.Proofs.Command.Validation

/-!
# No request without a certificate

Scenarios and looks at units are the business of a suite that was set up. Where that did not come
about, for want of a configuration or of a certificate, a process did nothing but prepare.
-/
namespace DashboardCheck

variable {config : Config} {setting : Setting} {world : World}

def Context.Serves (ctx : Context) (setting : Setting) (built : World) (command : Command)
    (finish : World) : Prop :=
  match command with
  | .run only => finish = ((ctx.run only).start setting built).2
  | .probe => finish = (ctx.probeUnits.start setting built).2
  | _ => False

namespace Command

/-- The world that a command leaves behind: nothing was done, or setting up a suite was all, or what
came after that was the suite's. -/
inductive Leaves (config : Config) (setting : Setting) (world : World) (command : Command) :
    World → Prop
  | nothing : Leaves config setting world command world
  | unbuilt {e : CheckError} {built : World}
      (hbuild : (Context.build config).start setting world = (.error e, built)) :
      Leaves config setting world command built
  | built {ctx : Context} {built finish : World}
      (hbuild : (Context.build config).start setting world = (.ok ctx, built))
      (hserves : ctx.Serves setting built command finish) :
      Leaves config setting world command finish

theorem probeUnits_leaves :
    Leaves config setting world .probe ((probeUnits config).start setting world).2 := by
  rw [probeUnits, Program.start_bind, Program.start_mapError]
  rcases hbuild : (Context.build config).start setting world with ⟨result, built⟩
  cases result with
  | error e => exact .unbuilt hbuild
  | ok ctx =>
    refine .built hbuild ?_
    dsimp only [Context.Serves, Except.mapError]
    rw [Program.start_bind, Program.start_mapError]
    cases (ctx.probeUnits.start setting built).1 <;> rfl

theorem runScenarios_leaves (only : List String) :
    Leaves config setting world (.run only) ((runScenarios config only).start setting world).2 := by
  by_cases hknown : ∀ text ∈ only, Scenario.ofName? text ≠ none
  · rcases hbuild : (Context.build config).start setting world with ⟨result, built⟩
    cases result with
    | error e =>
      rw [start_runScenarios_unbuilt hknown hbuild]
      exact .unbuilt hbuild
    | ok ctx =>
      obtain ⟨report, finish, hrun, -, hstart⟩ := start_runScenarios_built hknown hbuild
      rw [hstart]
      refine .built hbuild ?_
      rw [Context.Serves, hrun]
  · obtain ⟨text, known, hstart⟩ :=
      start_runScenarios_unknown config only setting world (by simpa using hknown)
    rw [hstart]
    exact .nothing

/-- If there was more than preparations, a suite was set up. -/
theorem Leaves.preparedSince {command : Command} {finish : World}
    (h : Leaves config setting world command finish) :
    PreparedSince world.trace setting finish.trace ∨
      ∃ ctx built, (Context.build config).start setting world = (.ok ctx, built) ∧
        ctx.Serves setting built command finish := by
  have hprepared := Context.preparedSince_build config setting world
  cases h with
  | nothing => exact .inl preparedSince_self
  | unbuilt hbuild =>
    rw [hbuild] at hprepared
    exact .inl hprepared
  | built hbuild hserves => exact .inr ⟨_, _, hbuild, hserves⟩

end Command

namespace CommandLine

variable {arguments : List String} {env : Environment} {line : CommandLine}

/-- A process that probes or runs scenarios leaves what its command leaves, under the orchestrator
of its configuration. -/
theorem process_leaves (host : Juju.Client → Juju.Host) (setting : Setting)
    (hline : ofArguments arguments = .ok line)
    (hcommand : line.command = .probe ∨ ∃ only, line.command = .run only)
    (hconfig : Config.loadOrDefault world.disk env line.config = .ok config) :
    let client := Juju.Client.ofConfig config
    let inner := client.inside (host client) setting
    Command.Leaves config inner world line.command
      (process arguments env host setting world).2 := by
  intro client inner
  rw [process_of_line env host setting world hline, execute]
  rcases hcommand with hprobe | ⟨only, hrun⟩
  · rw [hprobe, carryOut_probe env host hprobe, start_withConfig host _ setting hconfig]
    exact Command.probeUnits_leaves
  · rw [hrun, carryOut_run env host hrun, start_withConfig host _ setting hconfig]
    exact Command.runScenarios_leaves only

/-- A certificate is accepted exactly if it is marked, and as it is. Setting up a suite sends
nothing, and gives a suite that trusts such a file. A process that looks at units or runs scenarios
only prepares where no suite could be set up, and otherwise leaves all that is more to the suite. -/
theorem process_certified (arguments : List String) (env : Environment)
    (host : Juju.Client → Juju.Host) (setting : Setting) (world : World) (line : CommandLine)
    (hline : ofArguments arguments = .ok line)
    (hcommand : line.command = .probe ∨ ∃ only, line.command = .run only) :
    let finish := (process arguments env host setting world).2
    (∀ path pem ca, Certificate.check path pem = .ok ca ↔ IsMarked pem ∧ ca = ⟨path, pem⟩) ∧
    (∀ config setting world,
      PreparedSince world.trace setting ((Context.build config).start setting world).2.trace ∧
      ∀ ctx built, (Context.build config).start setting world = (.ok ctx, built) →
        ctx.config = config ∧ ctx.IsTrusting built.disk) ∧
    (∀ e, Config.loadOrDefault world.disk env line.config = .error e → finish = world) ∧
    ∀ config, Config.loadOrDefault world.disk env line.config = .ok config →
      let client := Juju.Client.ofConfig config
      let inner := client.inside (host client) setting
      (∀ e built, (Context.build config).start inner world = (.error e, built) →
        PreparedSince world.trace inner finish.trace) ∧
      ∀ ctx built, (Context.build config).start inner world = (.ok ctx, built) →
        PreparedSince world.trace inner finish.trace ∨
          ctx.Serves inner built line.command finish := by
  intro finish
  refine ⟨fun _ _ _ => Certificate.check_eq_ok_iff, ?_, ?_, ?_⟩
  · exact fun _ _ _ => ⟨Context.preparedSince_build _ _ _, fun _ _ => Context.isTrusting_of_build⟩
  · intro e hconfig
    have hother : line.command ≠ .validate := by
      rcases hcommand with hprobe | ⟨only, hrun⟩
      · simp [hprobe]
      · simp [hrun]
    simp only [finish, process_unconfigured host setting hline hother hconfig]
  · intro config hconfig client inner
    have hleaves := (process_leaves host setting hline hcommand hconfig).preparedSince
    refine ⟨?_, ?_⟩
    · intro e built hbuild
      refine hleaves.resolve_right ?_
      rintro ⟨ctx, built', hbuilt, -⟩
      cases hbuild.symm.trans hbuilt
    · intro ctx built hbuild
      refine hleaves.imp_right ?_
      rintro ⟨ctx', built', hbuilt, hserves⟩
      cases hbuild.symm.trans hbuilt
      exact hserves

/-- Without a tool there is no certificate to copy, and nothing is sent to a unit. -/
theorem process_certified_probe :
    (process ["probe"] [] (fun _ => bareHost) offline bareWorld).2.trace.requests = [] := by
  obtain ⟨-, -, -, hprocess⟩ := process_certified ["probe"] [] (fun _ => bareHost) offline bareWorld
    ⟨"dashprobe.toml", none, .text, .probe⟩ (by decide +kernel) (.inl rfl)
  obtain ⟨hvain, -⟩ := hprocess Config.default (by decide +kernel)
  let inner := { offline with
    orchestrator := (Juju.Client.ofConfig Config.default).orchestrator bareHost }
  have hfails :
      ((Context.build Config.default).start inner bareWorld).1.toOption.isNone = true := by
    decide +kernel
  rcases hbuild : (Context.build Config.default).start inner bareWorld with ⟨result, built⟩
  rw [hbuild] at hfails
  cases result with
  | ok ctx => cases hfails
  | error e => exact (hvain e built hbuild).requests_eq

end CommandLine

end DashboardCheck
