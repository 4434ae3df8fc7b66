import DashboardCheck.Command.Process
import DashboardCheck.Proofs.Check.Suite

/-!
# What `dashprobe run` comes to

The end of a process that runs scenarios, for all names, all answers of the orchestrator and all
networks. A wrong name ends it before anything is done; a suite that cannot be set up ends it
without a report; after that nothing but the verdicts in the report decides how it ends.
-/
namespace DashboardCheck

/-- No error ends a process as if it had gone well. -/
theorem CommandError.code_ne_zero (e : CommandError) : e.code ≠ 0 := by
  cases e with
  | run e => cases e <;> simp [code, configCode, orchestratorCode, fileCode, failureCode]
  | _ => simp [code, configCode, orchestratorCode, fileCode, failureCode]

/-- A process ended with one report on standard output, and with a code that says whether an entry
of it is a failure. The error text tells how many are. -/
structure Exit.Reports (exit : Exit) (format : Format) (colour : Bool) (report : SuiteReport) :
    Prop where
  stdout : exit.stdout = (CommandReport.suite report).render format colour
  success : exit.code = 0 ↔ ∀ entry ∈ report.scenarios, entry.verdict.isFailed = false
  failure : exit.code ≠ 0 → exit.code = 1 ∧
    exit.stderr = Text.styled colour [.bold, .red] "error:" ++
      (" " ++ (toString report.failures ++ " scenario(s) failed") ++ "\n")

namespace Command

variable (config : Config) (only : List String) (setting : Setting) (world : World)

/-- An unknown name ends the command before anything is built. -/
theorem start_runScenarios_unknown (h : ∃ text ∈ only, Scenario.ofName? text = none) :
    ∃ text known, (runScenarios config only).start setting world =
      (.error (.ofCheck (.unknownScenario text known)), world) := by
  obtain ⟨text, known, hselect⟩ := Scenario.select_unknown h
  refine ⟨text, known, ?_⟩
  rw [runScenarios, hselect]
  rfl

variable {config only setting world}

/-- What cannot be built ends the command before a scenario is run. -/
theorem start_runScenarios_unbuilt {e : CheckError} {built : World}
    (hknown : ∀ text ∈ only, Scenario.ofName? text ≠ none)
    (hbuild : (Context.build config).start setting world = (.error e, built)) :
    (runScenarios config only).start setting world = (.error (.ofAccess e), built) := by
  obtain ⟨scenarios, hselect⟩ := Scenario.select_known hknown
  rw [runScenarios, hselect, Program.start_bind_ok setting world rfl, Program.start_bind_log]
  refine Program.start_bind_error setting world ?_
  rw [Program.start_mapError, hbuild]
  rfl

/-- With a context the command always reports, and complains exactly if the suite failed. -/
theorem start_runScenarios_built {ctx : Context} {built : World}
    (hknown : ∀ text ∈ only, Scenario.ofName? text ≠ none)
    (hbuild : (Context.build config).start setting world = (.ok ctx, built)) :
    ∃ report finish, (ctx.run only).start setting built = (.ok report, finish) ∧
      report.Tallied ∧
      (runScenarios config only).start setting world =
        (.ok ⟨.suite report,
          if report.isSuccess then none else some (.scenarios report.failed)⟩, finish) := by
  obtain ⟨scenarios, hselect⟩ := Scenario.select_known hknown
  have hrun := ctx.start_run setting built hselect
  refine ⟨_, _, hrun, (SuiteReport.counted_ofEntries _).tallied, ?_⟩
  have hbuild' : ((Context.build config).mapError CommandError.ofAccess).start setting world =
      (.ok ctx, built) := by
    rw [Program.start_mapError, hbuild]
    rfl
  have hrun' : ((ctx.run only).mapError CommandError.ofCheck).start setting built =
      (.ok (.ofEntries (ctx.entries setting scenarios built)),
        ctx.afterScenarios setting scenarios built) := by
    rw [Program.start_mapError, hrun]
    rfl
  rw [runScenarios, hselect, Program.start_bind_ok setting world rfl, Program.start_bind_log,
    Program.start_bind_ok setting world hbuild', Program.start_bind_ok setting built hrun']
  rfl

end Command

namespace Exit

variable (format : Format) (colour : Bool) (room : Nat) (e : FileError)

theorem ofFailure_stdout (stdout : String) (complaint : Option CommandError) :
    (ofFailure colour stdout complaint).stdout = stdout := by
  cases complaint <;> rfl

/-- A text that there is room for is printed as it is. -/
theorem print_fits {text : String} (h : text.toList.length ≤ room) :
    format.print text (some (room, e)) = (text, none) := by
  have hlost : (text.toList.drop room).isEmpty = true := by
    rw [List.isEmpty_iff, List.drop_eq_nil_of_le h]
  simp only [Format.print, hlost, if_true]

/-- Any other is cut off, and the command fails. -/
theorem print_cut {text : String} (h : room < text.toList.length) :
    ∃ fault, format.print text (some (room, e)) =
        (String.ofList (text.toList.take room), some fault) ∧
      (fault = .file e ∨ format = .json ∧ fault = .json e.message) := by
  have hlost : (text.toList.drop room).isEmpty = false := by
    simpa [List.isEmpty_eq_false_iff, List.drop_eq_nil_iff] using h
  simp only [Format.print, hlost, Bool.false_eq_true, if_false]
  refine ⟨_, rfl, ?_⟩
  cases format with
  | text => exact .inl rfl
  | json =>
    dsimp only
    split
    · exact .inr ⟨rfl, rfl⟩
    · exact .inl rfl

/-- Where standard output takes only so much, the beginning of the report is printed. If that is not
all of it, the process fails for this, whatever the report says. -/
theorem ofResult_cut (result : Except CommandError Conclusion) :
    let whole := ofResult format colour result
    let cut := ofResult format colour result (some (room, e))
    cut.stdout.toList = whole.stdout.toList.take room ∧
      (whole.stdout.toList.length ≤ room → cut = whole) ∧
      (room < whole.stdout.toList.length → ∃ fault,
        cut = ofFailure colour cut.stdout (some fault) ∧
        (fault = .file e ∨ format = .json ∧ fault = .json e.message)) := by
  intro whole cut
  cases result with
  | error fault =>
    have hempty : whole.stdout = "" := rfl
    refine ⟨by simp [cut, ofResult, ofFailure_stdout, hempty], fun _ => rfl, fun h => ?_⟩
    simp [hempty] at h
  | ok conclusion =>
    obtain ⟨report, complaint⟩ := conclusion
    have hwhole : whole.stdout = report.render format colour := by
      rw [show whole = _ from ofResult_ok format colour report complaint, ofFailure_stdout]
    rw [hwhole]
    rcases Nat.lt_or_ge room (report.render format colour).toList.length with h | h
    · obtain ⟨fault, hprint, hfault⟩ := print_cut format room e h
      have hcut : cut = ofFailure colour
          (String.ofList ((report.render format colour).toList.take room)) (some fault) := by
        simp only [cut, ofResult, hprint]
        rfl
      rw [hcut, ofFailure_stdout]
      exact ⟨String.toList_ofList, fun hfits => absurd h (Nat.not_lt.mpr hfits),
        fun _ => ⟨fault, rfl, hfault⟩⟩
    · have hprint := print_fits format room e h
      have hcut : cut = whole := by
        simp only [cut, whole, ofResult, hprint]
        rfl
      rw [hcut, hwhole, List.take_of_length_le h]
      exact ⟨rfl, fun _ => rfl, fun hroom => absurd hroom (Nat.not_lt.mpr h)⟩

end Exit

namespace CommandLine

/-- With a configuration that is accepted, the command runs with the tool that it names. -/
theorem start_withConfig {line : CommandLine} {env : Environment} {config : Config}
    (host : Juju.Client → Juju.Host) (act : Config → Program CommandError Conclusion)
    (setting : Setting) {world : World}
    (h : Config.loadOrDefault world.disk env line.config = .ok config) :
    (line.withConfig env host act).start setting world =
      (act config).start ((Juju.Client.ofConfig config).inside
        (host (Juju.Client.ofConfig config)) setting) world := by
  rw [withConfig, Program.start_bind_ok setting world (Program.start_look setting world)]
  dsimp only
  rw [Command.configuration, h]
  rfl

/-- With one that is not, nothing is done. -/
theorem start_withConfig_error {line : CommandLine} {env : Environment} {e : Config.LoadError}
    (host : Juju.Client → Juju.Host) (act : Config → Program CommandError Conclusion)
    (setting : Setting) {world : World}
    (h : Config.loadOrDefault world.disk env line.config = .error e) :
    (line.withConfig env host act).start setting world = (.error (.run e.toRunError), world) := by
  rw [withConfig, Program.start_bind_ok setting world (Program.start_look setting world)]
  dsimp only
  rw [Command.configuration, h]
  rfl

theorem process_of_line {arguments : List String} {line : CommandLine} (env : Environment)
    (host : Juju.Client → Juju.Host) (setting : Setting) (world : World)
    (h : ofArguments arguments = .ok line) :
    process arguments env host setting world = line.execute env host setting world := by
  rw [process, h]

theorem carryOut_run {line : CommandLine} {only : List String} (env : Environment)
    (host : Juju.Client → Juju.Host) (h : line.command = .run only) :
    line.carryOut env host =
      line.withConfig env host fun config => Command.runScenarios config only := by
  rw [carryOut, h]

theorem carryOut_probe {line : CommandLine} (env : Environment) (host : Juju.Client → Juju.Host)
    (h : line.command = .probe) :
    line.carryOut env host = line.withConfig env host Command.probeUnits := by
  rw [carryOut, h]

theorem carryOut_addUser {line : CommandLine} {username role : Option String} (env : Environment)
    (host : Juju.Client → Juju.Host) (h : line.command = .addUser username role) :
    line.carryOut env host =
      line.withConfig env host fun config => Command.makeUser config username role := by
  rw [carryOut, h]

/-- What is logged aside, showing a configuration is one more use of it. -/
theorem start_carryOut_display {line : CommandLine} {part : Option String} (env : Environment)
    (host : Juju.Client → Juju.Host) (setting : Setting) (world : World)
    (h : line.command = .display part) :
    (line.carryOut env host).start setting world =
      (line.withConfig env host fun config =>
        Program.ofExcept (Command.listing config line.config part)).start setting world := by
  rw [carryOut, h]
  rfl

/-- A process whose standard output takes only so much does the same, prints the beginning of the
same, and fails if that is not all. -/
theorem execute_cut (line : CommandLine) (env : Environment) (host : Juju.Client → Juju.Host)
    (setting : Setting) (world : World) (room : Nat) (e : FileError) :
    let whole := line.execute env host setting world
    let cut := line.execute env host setting world (some (room, e))
    cut.2 = whole.2 ∧ cut.1.stdout.toList = whole.1.stdout.toList.take room ∧
      (whole.1.stdout.toList.length ≤ room → cut.1 = whole.1) ∧
      (room < whole.1.stdout.toList.length →
        cut.1.code = 10 ∨ line.output = .json ∧ cut.1.code = 1) := by
  intro whole cut
  obtain ⟨hbegin, hfits, hcut⟩ := Exit.ofResult_cut line.output (wantsColour env) room e
    ((line.carryOut env host).start setting world).1
  refine ⟨rfl, hbegin, hfits, fun h => ?_⟩
  obtain ⟨fault, hfault, rfl | ⟨houtput, rfl⟩⟩ := hcut h
  · exact .inl (congrArg Exit.code hfault)
  · exact .inr ⟨houtput, congrArg Exit.code hfault⟩

def bareHost : Juju.Host := fun world _ _ => (.notStarted "", world.disk)

end CommandLine

end DashboardCheck
