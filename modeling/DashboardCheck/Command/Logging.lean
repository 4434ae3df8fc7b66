import DashboardCheck.Command.Process

/-!
The log. It is set up before anything is carried out, from the configuration if that can be loaded
and from the defaults otherwise; the level on the command line goes before either, and a variable of
the environment before both. Log lines go to standard error and never into the report of a command.
-/
namespace DashboardCheck

inductive LogFormat where
  | json | pretty
  deriving DecidableEq, Repr

structure Logging where
  level : String
  format : LogFormat
  deriving DecidableEq, Repr

namespace Logging

/-- The log that the settings ask for. The level is taken as it is; only a format can be unknown. -/
def ofGeneral (general : Config.General) : Except CommandError Logging :=
  match general.logFormat with
  | "json" => .ok ⟨general.logLevel, .json⟩
  | "pretty" => .ok ⟨general.logLevel, .pretty⟩
  | format => .error (.config s!"unknown log format '{format}', expected 'json' or 'pretty'")

end Logging

namespace CommandLine

/-- The settings of the log: those of the configuration or else the defaults, with the level of the
command line. -/
def general (line : CommandLine) (loaded : Except Config.LoadError Config) : Config.General :=
  let general := match loaded with
    | .ok config => config.general
    | .error _ => Config.default.general
  { general with logLevel := line.logLevel.getD general.logLevel }

def logging (line : CommandLine) (env : Environment) (disk : Disk) : Except CommandError Logging :=
  Logging.ofGeneral (line.general (Config.loadOrDefault disk env line.config))

/-- Runs a process with these arguments, from the set-up of its log on. -/
def launch (arguments : List String) (env : Environment) (host : Juju.Client → Juju.Host)
    (setting : Setting) (world : World) (sink : Sink := none) : Exit × World :=
  match ofArguments arguments with
  | .error refusal => (refusal.exit.cut sink, world)
  | .ok line =>
    match line.logging env world.disk with
    | .error e => (.ofResult line.output (wantsColour env) (.error e), world)
    | .ok _ => line.execute env host setting world sink

def log (arguments : List String) (env : Environment) (host : Juju.Client → Juju.Host)
    (setting : Setting) (world : World) : List LogLine :=
  match ofArguments arguments with
  | .error _ => []
  | .ok line =>
    match line.logging env world.disk with
    | .error _ => []
    | .ok _ => line.logLines env host setting world

/-- The variable with directives that go before the level. -/
def directivesVariable : String := "RUST_LOG"

/-- How the lines of a log come to be text. It is told the directives, if there are any, and the
settings; which lines it leaves out is up to it. -/
abbrev LogWriter := Option String → Logging → List LogLine → String

/-- All that a process writes to standard error: the log, then the error if there is one. -/
def stderr (write : LogWriter) (arguments : List String) (env : Environment)
    (host : Juju.Client → Juju.Host) (setting : Setting) (world : World) (sink : Sink := none) :
    String :=
  let error := (launch arguments env host setting world sink).1.stderr
  match ofArguments arguments with
  | .error _ => error
  | .ok line =>
    match line.logging env world.disk with
    | .error _ => error
    | .ok logging =>
      write (env.text? directivesVariable) logging (log arguments env host setting world) ++ error

end CommandLine

end DashboardCheck
