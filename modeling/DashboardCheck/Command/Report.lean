import DashboardCheck.Check.Scenario
import DashboardCheck.Check.Topology
import DashboardCheck.Text.Styled

/-!
The reports of commands, as text for people and as JSON for programs. The text of a report on a new
user does not depend on the password.
-/
namespace DashboardCheck

open Text

inductive Format where
  | text | json
  deriving DecidableEq, Repr

/-- What a look at the units found. -/
structure ProbeReport where
  application : String
  /-- The base address of the first active unit. -/
  active : Option String
  topology : Topology
  deriving DecidableEq, Repr

structure UserReport where
  username : String
  role : String
  /-- The unit that made the user. -/
  unit : String
  password : String
  deriving DecidableEq, Repr

structure ConfigReport where
  /-- The path of the file. -/
  source : String
  part : Option String
  toml : String
  deriving DecidableEq, Repr

/-- Whether a configuration can be used. -/
structure ValidationReport where
  /-- The path of the file. -/
  source : String
  valid : Bool
  errors : List String
  deriving DecidableEq, Repr

inductive CommandReport where
  | suite (r : SuiteReport)
  | probe (r : ProbeReport)
  | user (r : UserReport)
  | config (r : ConfigReport)
  | validation (r : ValidationReport)
  deriving DecidableEq, Repr

def ofLines (ls : List String) : String :=
  String.join (ls.map fun l => l ++ "\n")

def Verdict.word (colour : Bool) : Verdict → String
  | passed => styled colour [.bold, .green] "PASS"
  | skipped _ => styled colour [.bold, .yellow] "SKIP"
  | failed _ => styled colour [.bold, .red] "FAIL"

def Verdict.detail : Verdict → List String
  | passed => []
  | skipped reason => ["        " ++ reason]
  | failed message => ["        " ++ message]

def ScenarioReport.lines (colour : Bool) (s : ScenarioReport) : List String :=
  s!"  {s.verdict.word colour}  {s.name} ({s.durationMs} ms)" :: s.verdict.detail

def SuiteReport.text (colour : Bool) (r : SuiteReport) : String :=
  let count (style : Style) (n : Nat) : String := styled colour [style] (toString n)
  ofLines ([styled colour [.bold] "Scenarios"] ++ r.scenarios.flatMap (·.lines colour) ++
    ["", s!"Summary: {count .green r.passed} passed, {count .red r.failed} failed, " ++
      s!"{count .yellow r.skipped} skipped"])

def ProbeReport.text (colour : Bool) (r : ProbeReport) : String :=
  let active := match r.active with
    | some url => styled colour [.green] url
    | none => styled colour [.red] "none"
  let health :=
    if r.topology.isHealthy then styled colour [.bold, .green] "HEALTHY"
    else styled colour [.bold, .red] "UNHEALTHY"
  ofLines ["Dashboard: " ++ styled colour [.bold] r.application,
    "  Active:   " ++ active,
    s!"  Topology: {r.topology.text} {health}",
    s!"  Units:    {r.topology.unitCount}"]

/-- The text of a report on a user. The password is left out. -/
def UserReport.text (colour : Bool) (r : UserReport) : String :=
  ofLines [s!"User {styled colour [.bold] r.username} created",
    "  Role:     " ++ r.role,
    "  Unit:     " ++ r.unit,
    "  Password: " ++ styled colour [.dimmed] "(use --output json to print)"]

def ConfigReport.text (colour : Bool) (r : ConfigReport) : String :=
  let title := match r.part with
    | some name =>
      "Configuration " ++ styled colour [.bold] s!"[{name}]" ++ s!" (source: {r.source})"
    | none => s!"Configuration (source: {styled colour [.bold] r.source})"
  ofLines [title, ""] ++ r.toml

def ValidationReport.text (colour : Bool) (r : ValidationReport) : String :=
  let result :=
    if r.valid then ["  Result: " ++ styled colour [.bold, .green] "VALID"]
    else ("  Result: " ++ styled colour [.bold, .red] "INVALID") ::
      r.errors.map fun e => "  Error: " ++ styled colour [.red] e
  ofLines (("Config Validation: " ++ styled colour [.bold] r.source) :: result)

def CommandReport.text (colour : Bool) : CommandReport → String
  | suite r => r.text colour
  | probe r => r.text colour
  | user r => r.text colour
  | config r => r.text colour
  | validation r => r.text colour

def ProbeReport.toJson (r : ProbeReport) : Json.Value :=
  .object
    [("application", .string r.application), ("active", .ofText? r.active),
     ("healthy", .bool r.topology.isHealthy), ("topology", r.topology.toJson)]

def UserReport.toJson (r : UserReport) : Json.Value :=
  .object
    [("username", .string r.username), ("role", .string r.role), ("unit", .string r.unit),
     ("password", .string r.password)]

/-- The JSON form of a report on a configuration. The settings themselves are left out. -/
def ConfigReport.toJson (r : ConfigReport) : Json.Value :=
  .object (("source", .string r.source) ::
    (r.part.map fun name => ("section", Json.Value.string name)).toList)

def ValidationReport.toJson (r : ValidationReport) : Json.Value :=
  .object
    [("source", .string r.source), ("valid", .bool r.valid),
     ("errors", .array (r.errors.map .string))]

def CommandReport.toJson : CommandReport → Json.Value
  | suite r => r.toJson
  | probe r => r.toJson
  | user r => r.toJson
  | config r => r.toJson
  | validation r => r.toJson

def CommandReport.render (format : Format) (colour : Bool) (r : CommandReport) : String :=
  match format with
  | .text => r.text colour
  | .json => r.toJson.pretty ++ "\n"

end DashboardCheck
