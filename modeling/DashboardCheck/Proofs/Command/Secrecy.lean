import DashboardCheck.Proofs.Check.Secrecy
import DashboardCheck.Proofs.Command.Unreachable
import DashboardCheck.Proofs.Command.Validated
import DashboardCheck.Proofs.Juju.Secrecy

/-!
# Who gets to see a password

Two processes with the same arguments, in surroundings that are the same but for the password of a
new user. Both do the same, log the same and end the same, with two exceptions: a login shows the
password to the server and to those that it sends the login on to, and the JSON form of the report
on a new user tells it.
-/
namespace DashboardCheck

open Program (Twins)

variable {s s' : Setting}

/-- Two commands that ran scenarios with the same report, but for how long they took. -/
def Conclusion.SameSuite (c c' : Conclusion) : Prop :=
  ∃ report report' complaint, report.untimed = report'.untimed ∧
    c = ⟨.suite report, complaint⟩ ∧ c' = ⟨.suite report', complaint⟩

/-- Two commands that made the same user, but for the password. -/
def Conclusion.SameUser (c c' : Conclusion) : Prop :=
  ∃ (report : UserReport) (password' : String),
    c = ⟨.user report, none⟩ ∧ c' = ⟨.user { report with password := password' }, none⟩

namespace Command

/-- The command that runs scenarios asks for the same and concludes alike. -/
theorem runScenarios_twins (h : s.Alike s') (config : Config) (only : List String) :
    Twins s s' Conclusion.SameSuite (runScenarios config only) (runScenarios config only) := by
  refine (Program.twins_ofExcept (.refl _)).bind_eq fun _ => .after_log ?_
  refine ((Context.build_twins h config).mapError _).bind_eq fun ctx => ?_
  refine ((ctx.run_twins h only).mapError _).bind fun report report' hreport => ?_
  have hfailed : report.failed = report'.failed :=
    congrArg (fun untimed => untimed.failed) hreport
  have hsuccess : report.isSuccess = report'.isSuccess := by
    rw [SuiteReport.isSuccess, SuiteReport.isSuccess, hfailed]
  rw [hsuccess, hfailed]
  exact Program.twins_pure ⟨report, report', _, hreport, rfl, rfl⟩

theorem probeUnits_twins (h : s.Alike s') (config : Config) :
    Twins s s' Eq (probeUnits config) (probeUnits config) := by
  refine ((Context.build_twins h config).mapError _).bind_eq fun ctx => ?_
  exact ((ctx.probeUnits_twins h).mapError _).bind_eq fun _ =>
    .after_log (Program.twins_pure rfl)

/-- A user of a given name is made alike but for the password. -/
theorem makeNamed_twins (h : s.Alike s') (config : Config) (name role : String) :
    Twins s s' Conclusion.SameUser (makeNamed config name role) (makeNamed config name role) := by
  refine ((createUser_twins h _ name role).mapError _).bind fun outcome outcome' houtcome => ?_
  refine (Program.twins_ofExcept ((passwordOf_paired houtcome _).mapError _)).bind
    fun password password' _ => ?_
  rw [houtcome.unit]
  exact .after_log (Program.twins_pure ⟨_, password', rfl, rfl⟩)

/-- The name of the new user is the same in both runs, given or made up. -/
theorem makeUser_twins (h : s.Alike s') (config : Config) (username role : Option String) :
    Twins s s' Conclusion.SameUser (makeUser config username role)
      (makeUser config username role) := by
  cases username with
  | some name =>
    rw [makeUser_some]
    exact (Program.twins_pure rfl).bind_eq fun name => makeNamed_twins h config name _
  | none =>
    rw [makeUser_none]
    exact (randomUsername_twins h.toSameAround _).bind_eq fun name =>
      makeNamed_twins h config name _

end Command

/-- A line that tells no time that was measured. -/
def LogLine.IsTimeless (line : LogLine) : Prop := line.untimed = line

namespace Program

variable {ε δ α β : Type}

/-- A program that logs no times, unless the orchestrator does. -/
def Timeless (p : Program ε α) : Prop :=
  ∀ setting world, (∀ world call, ∀ line ∈ setting.remarks world call, line.IsTimeless) →
    ∀ line ∈ p.logged setting world, line.IsTimeless

theorem Timeless.mapError {p : Program ε α} (h : p.Timeless) (f : ε → δ) :
    (p.mapError f).Timeless := h

theorem Timeless.bind {p : Program ε α} {f : α → Program ε β} (hp : p.Timeless)
    (hf : ∀ a, (f a).Timeless) : (p >>= f).Timeless := by
  intro setting world hremarks line hline
  rw [logged_bind] at hline
  rcases List.mem_append.mp hline with hline | hline
  · exact hp setting world hremarks line hline
  · rcases hstart : p.start setting world with ⟨result, after⟩
    rw [hstart] at hline
    cases result with
    | ok a => exact hf a setting after hremarks line hline
    | error e => cases hline

end Program

/-- What two processes print that carry out the same command line: the same, but for how long
scenarios took, and for the password of a new user in the JSON form. -/
def CommandLine.PrintsAlike (line : CommandLine) (colour : Bool) (stdout stdout' : String) : Prop :=
  match line.command with
  | .run _ => (stdout = "" ∧ stdout' = "") ∨
      ∃ report report' : SuiteReport, report.untimed = report'.untimed ∧
        stdout = (CommandReport.suite report).render line.output colour ∧
        stdout' = (CommandReport.suite report').render line.output colour
  | .addUser _ _ => stdout = stdout' ∨ line.output = .json ∧
      ∃ (report : UserReport) (password' : String),
        stdout = (CommandReport.user report).render .json colour ∧
        stdout' = (CommandReport.user { report with password := password' }).render .json colour
  | _ => stdout = stdout'

/-- What two processes come to that carry out the same command line: the same, but for how long
scenarios took, and for the password of a new user. -/
def CommandLine.SameConclusion (line : CommandLine) : Conclusion → Conclusion → Prop :=
  match line.command with
  | .run _ => Conclusion.SameSuite
  | .addUser _ _ => Conclusion.SameUser
  | _ => Eq

/-- Two ends of processes that carried out the same command line alike. -/
structure Exit.Alike (line : CommandLine) (colour : Bool) (exit exit' : Exit) : Prop where
  code : exit.code = exit'.code
  stderr : exit.stderr = exit'.stderr
  stdout : line.PrintsAlike colour exit.stdout exit'.stdout

namespace Exit

variable {line : CommandLine} {colour : Bool} {x y : Except CommandError Conclusion}

end Exit

namespace CommandLine

section Twins

variable (env : Environment) {host host' : Juju.Client → Juju.Host}

/-- The configuration is the same for both, and so the client is. -/
theorem withConfig_twins {R : Conclusion → Conclusion → Prop} (haround : s.SameAround s')
    (hhost : ∀ client : Juju.Client, client.SameHosts (host client) (host' client))
    (line : CommandLine) {act : Config → Program CommandError Conclusion}
    (hact : ∀ {inner inner' : Setting}, inner.Alike inner' → ∀ config,
      Twins inner inner' R (act config) (act config)) :
    Twins s s' R (line.withConfig env host act) (line.withConfig env host' act) := by
  refine Program.twins_look.bind fun before before' hbefore => ?_
  rw [hbefore.disk]
  refine (Program.twins_ofExcept (.refl _)).bind_eq fun config => ?_
  let client := Juju.Client.ofConfig config
  -- inside, the network is the one around
  intro world world' hworld
  exact hact (client.setting_alike haround (hhost client)) config world world' hworld

/-- Every command is carried out alike, up to what its conclusion may differ in. -/
theorem carryOut_twins (haround : s.SameAround s')
    (hhost : ∀ client : Juju.Client, client.SameHosts (host client) (host' client))
    (line : CommandLine) :
    Twins s s' line.SameConclusion (line.carryOut env host) (line.carryOut env host') := by
  rw [SameConclusion.eq_def, carryOut.eq_def, carryOut.eq_def]
  cases line.command with
  | run only =>
    exact withConfig_twins env haround hhost line
      fun h config => Command.runScenarios_twins h config only
  | probe =>
    exact withConfig_twins env haround hhost line fun h config => Command.probeUnits_twins h config
  | addUser username role =>
    exact withConfig_twins env haround hhost line
      fun h config => Command.makeUser_twins h config username role
  | validate =>
    refine Program.twins_look.bind fun before before' hbefore => ?_
    rw [hbefore.disk]
    exact .after_log (.after_log (Program.twins_pure rfl))
  | display part =>
    refine Program.twins_look.bind fun before before' hbefore => ?_
    rw [hbefore.disk]
    refine .after_log (.after_log ?_)
    exact withConfig_twins env haround hhost line fun _ config =>
      Program.twins_ofExcept (.refl (Command.listing config line.config part))

end Twins

/-- A way to write lines to which the times in them do not matter. -/
def LogWriter.IsTimeless (write : LogWriter) : Prop :=
  ∀ (directives : Option String) (logging : Logging) (lines lines' : List LogLine),
    lines.map LogLine.untimed = lines'.map LogLine.untimed →
      write directives logging lines = write directives logging lines'

section Log

variable {env : Environment} {host host' : Juju.Client → Juju.Host} {setting setting' : Setting}
  {world : World}

end Log

def posted (trace : Trace) : List (String × String) :=
  trace.filterMap fun
    | .sent request => request.content.map fun content => (request.url.text, content.body)
    | _ => none

end CommandLine

end DashboardCheck
