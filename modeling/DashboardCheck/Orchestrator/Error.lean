/-!
What goes wrong when the orchestrator is asked for something.
-/
namespace DashboardCheck

inductive OrchestratorError where
  /-- The program that should answer could not be started. -/
  | spawn (program reason : String)
  /-- The program ended with a code other than zero. -/
  | commandFailed (command : String) (code : Int) (stderr : String)
  /-- The program did not end in time. -/
  | timeout (command : String) (seconds : Nat)
  /-- The program printed something that cannot be used. -/
  | output (command reason : String)
  | applicationNotFound (name : String)
  | unitNotFound (name : String)
  deriving DecidableEq, Repr

namespace OrchestratorError

def message : OrchestratorError → String
  | spawn program reason => s!"failed to spawn '{program}': {reason}"
  | commandFailed command code stderr => s!"command '{command}' exited with {code}: {stderr}"
  | timeout command seconds => s!"command '{command}' timed out after {seconds}s"
  | output command reason => s!"unexpected output from '{command}': {reason}"
  | applicationNotFound name => s!"application not found: {name}"
  | unitNotFound name => s!"unit not found: {name}"

def isUnreachable : OrchestratorError → Bool
  | spawn _ _ => true
  | timeout _ _ => true
  | _ => false

end OrchestratorError

end DashboardCheck
