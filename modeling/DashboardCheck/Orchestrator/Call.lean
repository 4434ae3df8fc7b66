import DashboardCheck.Outcome.Basic

/-!
What the orchestrator can be asked for, and what it answers.
-/
namespace DashboardCheck

inductive Call where
  /-- The units of an application, in order. -/
  | units (application : String)
  /-- The public address of a unit. -/
  | address (unit : String)
  /-- Runs an action on the leader of an application. -/
  | action (application action : String) (params : Dict String)
  /-- Runs a command on the leader of an application. -/
  | command (application command : String)
  /-- The names of all applications. -/
  | names
  /-- The settings of an application. -/
  | settings (application : String)
  /-- Changes settings of an application. -/
  | configure (application : String) (settings : Dict String)
  /-- The Ubuntu series of an application. -/
  | series (application : String)
  /-- Copies a file from a unit. -/
  | copy (unit remotePath localPath : String)
  deriving DecidableEq, Repr

abbrev Call.Answer : Call → Type
  | .units _ => List String
  | .address _ => String
  | .action .. => ActionOutcome
  | .command .. => CommandOutcome
  | .names => List String
  | .settings _ => Dict Json.Value
  | .configure .. => Unit
  | .series _ => String
  | .copy .. => Unit

def leader (application : String) : String := application ++ "/leader"

end DashboardCheck
