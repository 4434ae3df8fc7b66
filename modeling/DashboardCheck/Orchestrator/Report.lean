import DashboardCheck.Orchestrator.Error
import DashboardCheck.Outcome.Basic
import DashboardCheck.Number.Numeral
import DashboardCheck.Text.Split

/-!
What the orchestrator prints about an action, a command or the settings of an application. Both
generations of the tool are read: the older keys an action by the tag of its unit and puts the
results of a command beside the unit, the newer keys by the unit and nests the results.
-/
namespace DashboardCheck.Report

open Json

def parseOutput (command stdout : String) : Except OrchestratorError Value :=
  (Json.parse stdout).mapError fun failure => .output command (Json.describe stdout failure)

/-- The first member of an object, or the first item of a list under the empty name. -/
def firstMember? : Value → Option (String × Value)
  | .object (entry :: _) => some entry
  | .array (item :: _) => some ("", item)
  | _ => none

/-- The unit of a tag such as `unit-a-0`; any other text stands for itself. -/
def unitOfTag (tag : String) : String :=
  match Text.stripStart "unit-".toList tag.toList with
  | none => tag
  | some rest =>
    match Text.cutLast '-' rest with
    | some (app, n) =>
      if n.all Number.isDigit then String.ofList (app ++ '/' :: n) else String.ofList rest
    | none => String.ofList rest

/-- The value under the first of several names that is there. -/
def firstOf (value : Value) (names : List String) : Option Value :=
  names.findSome? value.get?

def unitOf (key : String) (entry : Value) : String :=
  ((firstOf entry ["UnitId", "unit"]).bind Value.text?).getD (unitOfTag key)

def nonEmptyText? (value : Option Value) : Option String :=
  (value.bind Value.text?).filter fun s => !s.isEmpty

def parseAction (stdout : String) : Except OrchestratorError ActionOutcome := do
  let command := "juju run"
  let value ← parseOutput command stdout
  match firstMember? value with
  | none => throw (.output command "empty action result")
  | some (key, entry) =>
    let unit := unitOf key entry
    match (entry.get? "status").bind Value.text? with
    | none => throw (.output command s!"action result for '{unit}' has no status")
    | some status =>
      let results := (entry.get? "results").getD .null
      let message := (nonEmptyText? (entry.get? "message")).or
        (nonEmptyText? (firstOf results ["Stderr", "stderr"]))
      return ⟨unit, .ofReport status, results, message⟩

/-- The outcome of an action that only the error output reports as failed. -/
def actionFailure? (stderr unit : String) : Option ActionOutcome :=
  let lowered := (Text.lower stderr).toList
  if Text.occursIn "action".toList lowered && Text.occursIn "failed".toList lowered then
    some ⟨unit, .failed, .null, some (Text.trim stderr)⟩
  else none

def exitCode? : Value → Option Int
  | .integer n =>
    if CommandOutcome.minCode ≤ n && n ≤ CommandOutcome.maxCode then some n else none
  | .string s =>
    Number.integer? CommandOutcome.minCode CommandOutcome.maxCode (Text.trim s).toList
  | _ => none

/-- The text under the first of several names that is there, or nothing. -/
def outputText (results : Value) (names : List String) : String :=
  ((firstOf results names).bind Value.text?).getD ""

def parseExec (stdout : String) : Except OrchestratorError CommandOutcome := do
  let command := "juju exec"
  let value ← parseOutput command stdout
  match firstMember? value with
  | none => throw (.output command "empty command result")
  | some (key, entry) =>
    let unit := unitOf key entry
    let results := (entry.get? "results").getD entry
    match (firstOf results ["return-code", "Code", "code"]).bind exitCode? with
    | none => throw (.output command s!"command result for '{unit}' has no return code")
    | some code =>
      return ⟨unit, code, outputText results ["stdout", "Stdout"],
        outputText results ["stderr", "Stderr"]⟩

/-- The settings of an application that `stdout` reports; one without a value is null. -/
def parseSettings (stdout : String) : Except OrchestratorError (Dict Value) := do
  let command := "juju config"
  let value ← parseOutput command stdout
  match value.get? "settings" with
  | some (.object settings) =>
    return Dict.mapValues (fun option => (option.get? "value").getD .null) settings
  | _ => throw (.output command "missing 'settings' object")

end DashboardCheck.Report
