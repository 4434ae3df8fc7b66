import DashboardCheck.Config.Environment
import DashboardCheck.Config.Reading
import DashboardCheck.Config.Validation
import DashboardCheck.Disk

/-!
Where a configuration comes from: a file, overridden by the environment, and then checked.
-/
namespace DashboardCheck.Config

inductive LoadError where
  | config (e : ConfigError)
  | file (e : FileError)
  deriving DecidableEq, Repr

def ofFile (disk : Disk) (path : String) : Except LoadError Config :=
  match disk.readText path with
  | .error .notFound => .error (.config (.fileNotFound path))
  | .error e => .error (.file e)
  | .ok text => (parse text).mapError .config

def settle (env : Environment) (c : Config) : Except LoadError Config :=
  let c := c.override env
  match c.validate with
  | .ok () => .ok c
  | .error e => .error (.config e)

def load (disk : Disk) (env : Environment) (path : String) : Except LoadError Config := do
  settle env (← ofFile disk path)

def loadOrDefault (disk : Disk) (env : Environment) (path : String) : Except LoadError Config :=
  match ofFile disk path with
  | .ok c => settle env c
  | .error (.config (.fileNotFound _)) => settle env default
  | .error e => .error e

def loadLines (disk : Disk) (env : Environment) (path : String) : List LogLine :=
  match ofFile disk path with
  | .ok _ => overrideLines env
  | .error _ => []

/-- The same, where there need be no file. -/
def loadOrDefaultLines (disk : Disk) (env : Environment) (path : String) : List LogLine :=
  match ofFile disk path with
  | .error (.config (.fileNotFound _)) =>
    ⟨.debug, logTarget, "config file not found, using defaults", [("path", .text path)]⟩ ::
      overrideLines env
  | _ => loadLines disk env path

end DashboardCheck.Config
