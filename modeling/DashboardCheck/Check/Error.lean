import DashboardCheck.Config.Source
import DashboardCheck.Http.Message
import DashboardCheck.Orchestrator.Error

/-!
What can end a check of the dashboard, and what that means for the run that the check is part of.
-/
namespace DashboardCheck

inductive CheckError where
  /-- A request got no response. The text is the address as it was given. -/
  | transport (url : String) (e : Http.TransportError)
  /-- The client for requests cannot be set up. -/
  | tls (reason : String)
  /-- There is no usable certificate. -/
  | certificate (path reason : String)
  | orchestrator (e : OrchestratorError)
  /-- Something was not as the scenario demands. -/
  | assertion (scenario message : String)
  | release (e : ReleaseError)
  | unknownScenario (name known : String)
  | file (e : FileError)
  deriving DecidableEq, Repr

def CheckError.message : CheckError → String
  | transport url e => s!"request to '{url}' failed: {e.message}"
  | tls reason => s!"tls setup failed: {reason}"
  | certificate path reason => s!"certificate '{path}': {reason}"
  | orchestrator e => e.message
  | assertion scenario message => s!"scenario '{scenario}' failed: {message}"
  | release e => e.message
  | unknownScenario name known => s!"unknown scenario '{name}' (known: {known})"
  | file e => s!"io error: {e.message}"

inductive RunError where
  | config (e : ConfigError)
  | orchestrator (e : OrchestratorError)
  | http (reason : String)
  | assertion (scenario message : String)
  | release (e : ReleaseError)
  | file (e : FileError)
  deriving DecidableEq, Repr

def RunError.message : RunError → String
  | config e => s!"config error: {e.message}"
  | orchestrator e => s!"model error: {e.message}"
  | http reason => s!"http error: {reason}"
  | assertion scenario message => s!"scenario '{scenario}' failed: {message}"
  | release e => s!"release error: {e.message}"
  | file e => s!"io error: {e.message}"

/-- What the end of a check means for the run: trouble with requests counts as such, a missing
certificate as trouble with files, and a wrong name of a scenario as a wrong setting. -/
def CheckError.toRunError : CheckError → RunError
  | transport url e => .http (transport url e).message
  | tls reason => .http (tls reason).message
  | certificate path reason => .file (.other (certificate path reason).message)
  | orchestrator e => .orchestrator e
  | assertion scenario message => .assertion scenario message
  | release e => .release e
  | unknownScenario name known =>
    .config (.invalidValue "scenario" (unknownScenario name known).message)
  | file e => .file e

def Config.LoadError.toRunError : Config.LoadError → RunError
  | .config e => .config e
  | .file e => .file e

end DashboardCheck
