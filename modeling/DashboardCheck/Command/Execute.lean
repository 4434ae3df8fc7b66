import DashboardCheck.Check.Suite
import DashboardCheck.Command.Arguments
import DashboardCheck.Command.Error
import DashboardCheck.Config.Writing
import DashboardCheck.Juju.Host

/-!
Carrying out commands. A command that can be carried out has a report, which is printed even if the
command counts as failed; a command that cannot has none. Only the command that validates uses no
configuration.
-/
namespace DashboardCheck

/-- A command that was carried out. -/
structure Conclusion where
  report : CommandReport
  /-- Why the command counts as failed, if it does. -/
  complaint : Option CommandError
  deriving DecidableEq, Repr

namespace Command

def configuration (disk : Disk) (env : Environment) (path : String) : Except CommandError Config :=
  (Config.loadOrDefault disk env path).mapError fun e => .run e.toRunError

/-- Says whether the configuration can be used. -/
def validation (disk : Disk) (env : Environment) (path : String) : Conclusion :=
  match Config.load disk env path with
  | .ok _ => ⟨.validation ⟨path, true, []⟩, none⟩
  | .error e =>
    ⟨.validation ⟨path, false, [e.toRunError.message]⟩, some (.config "configuration is invalid")⟩

def listing (config : Config) (path : String) : Option String → Except CommandError Conclusion
  | none => .ok ⟨.config ⟨path, none, config.toToml⟩, none⟩
  | some name =>
    match Config.Part.all.find? fun part => part.name == name with
    | some part => .ok ⟨.config ⟨path, some name, part.toToml config⟩, none⟩
    | none =>
      let known := Text.join ", " (Config.Part.all.map Config.Part.name)
      .error (.refused s!"unknown section: {name} (expected: {known})")

/-- Runs scenarios. Their names are looked at first. -/
def runScenarios (config : Config) (only : List String) : Program CommandError Conclusion := do
  let scenarios ← Program.ofExcept ((Scenario.select only).mapError .ofCheck)
  Program.log ⟨.info, "dashprobe::commands::run", "running dashboard scenarios",
    [("application", .text config.dashboard.application),
     ("scenarios", .number scenarios.length)]⟩
  let ctx ← (Context.build config).mapError .ofAccess
  let report ← (ctx.run only).mapError .ofCheck
  return ⟨.suite report, if report.isSuccess then none else some (.scenarios report.failed)⟩

def probeReport (ctx : Context) (topology : Topology) : ProbeReport where
  application := ctx.application
  active := (topology.addresses Topology.active).head?.map ctx.unitUrl
  topology := topology

def probeUnits (config : Config) : Program CommandError Conclusion := do
  let ctx ← (Context.build config).mapError .ofAccess
  let topology ← ctx.probeUnits.mapError .ofAccess
  Program.log ⟨.info, "dashprobe::commands::probe", "probe finished",
    [("application", .text ctx.application), ("healthy", .flag topology.isHealthy)]⟩
  let complaint := match topology.verify with
    | .ok () => none
    | .error reason => some (.refused s!"dashboard topology is unhealthy: {reason}")
  return ⟨.probe (probeReport ctx topology), complaint⟩

def makeNamed (config : Config) (username role : String) : Program CommandError Conclusion := do
  let outcome ← (createUser config.dashboard.application username role).mapError .ofAccess
  let password ← Program.ofExcept ((passwordOf outcome "add_user").mapError .ofCheck)
  Program.log ⟨.info, "dashprobe::commands::add_user", "dashboard user created",
    [("username", .text username), ("unit", .text outcome.unit)]⟩
  return ⟨.user ⟨username, role, outcome.unit, password⟩, none⟩

def makeUser (config : Config) (username role : Option String) :
    Program CommandError Conclusion := do
  let username ← match username with
    | some name => pure name
    | none => randomUsername config.dashboard.usernamePrefix
  makeNamed config username (role.getD config.dashboard.userRole)

end Command

/-- The end of a process. -/
structure Exit where
  code : Nat
  stdout : String
  /-- Without the lines of the log, which stand before. -/
  stderr : String
  deriving DecidableEq, Repr

/-- How many characters standard output takes, and why it takes no more; none if it takes all. -/
abbrev Sink := Option (Nat × FileError)

/-- What is printed of a report and, if that is not all of it, why the command fails. The end of the
last line is written apart from the JSON before it. -/
def Format.print (format : Format) (text : String) : Sink → String × Option CommandError
  | none => (text, none)
  | some (room, e) =>
    let lost := text.toList.drop room
    if lost.isEmpty then (text, none)
    else
      (String.ofList (text.toList.take room),
        some (match format with
          | .text => .file e
          | .json => if lost.dropLast.contains '\n' then .json e.message else .file e))

/-- What is left of the end of a process that does not mind whether all is printed. -/
def Exit.cut (exit : Exit) : Sink → Exit
  | none => exit
  | some (room, _) => { exit with stdout := String.ofList (exit.stdout.toList.take room) }

def CommandError.line (colour : Bool) (e : CommandError) : String :=
  Text.styled colour [.bold, .red] "error:" ++ s!" {e.message}\n"

def Exit.ofFailure (colour : Bool) (stdout : String) : Option CommandError → Exit
  | none => ⟨0, stdout, ""⟩
  | some e => ⟨e.code, stdout, e.line colour⟩

/-- The end of a process that carried a command out, or could not. A report that cannot be printed
counts for more than what it says. -/
def Exit.ofResult (format : Format) (colour : Bool) (result : Except CommandError Conclusion)
    (sink : Sink := none) : Exit :=
  match result with
  | .error e => .ofFailure colour "" (some e)
  | .ok ⟨report, complaint⟩ =>
    let (printed, fault) := format.print (report.render format colour) sink
    .ofFailure colour printed (fault <|> complaint)

/-- A report that can be printed is printed, and its complaint decides the exit code. -/
theorem Exit.ofResult_ok (format : Format) (colour : Bool) (report : CommandReport)
    (complaint : Option CommandError) :
    ofResult format colour (.ok ⟨report, complaint⟩) =
      .ofFailure colour (report.render format colour) complaint := by
  cases complaint <;> rfl

namespace CommandLine

/-- Carries out what needs the configuration. The tool that it names is run on a host. -/
def withConfig (line : CommandLine) (env : Environment) (host : Juju.Client → Juju.Host)
    (act : Config → Program CommandError Conclusion) : Program CommandError Conclusion := do
  let disk := (← Program.look).disk
  let config ← Program.ofExcept (Command.configuration disk env line.config)
  let client := Juju.Client.ofConfig config
  Program.inside (client.inside (host client)) (act config)

/-- Where log lines of the commands on the configuration come from. -/
def configTarget : String := "dashprobe::commands::config"

def carryOut (line : CommandLine) (env : Environment) (host : Juju.Client → Juju.Host) :
    Program CommandError Conclusion :=
  match line.command with
  | .validate => do
    let disk := (← Program.look).disk
    Program.log ⟨.info, configTarget, "validating configuration", [("path", .text line.config)]⟩
    Program.logAll (Config.loadLines disk env line.config)
    return Command.validation disk env line.config
  | .display part => do
    let disk := (← Program.look).disk
    Program.log ⟨.info, configTarget, "loading configuration", [("path", .text line.config)]⟩
    Program.logAll (Config.loadOrDefaultLines disk env line.config)
    line.withConfig env host fun config =>
      Program.ofExcept (Command.listing config line.config part)
  | .run only => line.withConfig env host fun config => Command.runScenarios config only
  | .probe => line.withConfig env host Command.probeUnits
  | .addUser username role =>
    line.withConfig env host fun config => Command.makeUser config username role

def colourVariable : String := "CLICOLOR_FORCE"

def wantsColour (env : Environment) : Bool :=
  (env.text? colourVariable).any (· ≠ "0")

def execute (line : CommandLine) (env : Environment) (host : Juju.Client → Juju.Host)
    (setting : Setting) (world : World) (sink : Sink := none) : Exit × World :=
  let (result, world) := (line.carryOut env host).start setting world
  (.ofResult line.output (wantsColour env) result sink, world)

def logLines (line : CommandLine) (env : Environment) (host : Juju.Client → Juju.Host)
    (setting : Setting) (world : World) : List LogLine :=
  ⟨.debug, "dashprobe", "dashprobe starting", [("config", .text line.config)]⟩ ::
    (line.carryOut env host).logged setting world

end CommandLine

end DashboardCheck
