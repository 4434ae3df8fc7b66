import DashboardCheck.Check.Error

/-!
Why a command fails, and the exit code that says so.
-/
namespace DashboardCheck

inductive CommandError where
  /-- The configuration is at fault. -/
  | config (reason : String)
  /-- The command cannot be carried out as it was given, or what it found is not as it should be. -/
  | refused (reason : String)
  /-- The orchestrator cannot be reached. -/
  | unreachable (reason : String)
  /-- Scenarios failed, so many of them. -/
  | scenarios (count : Nat)
  /-- The report cannot be written as JSON. -/
  | json (reason : String)
  | file (e : FileError)
  | run (e : RunError)
  deriving DecidableEq, Repr

namespace CommandError

def message : CommandError → String
  | config reason => s!"configuration error: {reason}"
  | refused reason => reason
  | unreachable reason => s!"model not reachable: {reason}"
  | scenarios count => s!"{count} scenario(s) failed"
  | json reason => s!"json output error: {reason}"
  | file e => s!"io error: {e.message}"
  | run e => e.message

def configCode : Nat := 2

def orchestratorCode : Nat := 3

def fileCode : Nat := 10

def failureCode : Nat := 1

def code : CommandError → Nat
  | config _ => configCode
  | unreachable _ => orchestratorCode
  | file _ => fileCode
  | run (.config _) => configCode
  | run (.orchestrator _) => orchestratorCode
  | run (.file _) => fileCode
  | run _ => failureCode
  | refused _ => failureCode
  | scenarios _ => failureCode
  | json _ => failureCode

def ofCheck (e : CheckError) : CommandError := .run e.toRunError

/-- The same where the command itself depends on the orchestrator: one that cannot be reached is
reported as such. -/
def ofAccess : CheckError → CommandError
  | .orchestrator e => if e.isUnreachable then .unreachable e.message else ofCheck (.orchestrator e)
  | e => ofCheck e

end CommandError

end DashboardCheck
