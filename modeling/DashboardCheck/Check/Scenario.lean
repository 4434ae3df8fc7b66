import DashboardCheck.Check.Error
import DashboardCheck.Json.Value
import DashboardCheck.Text.Blank
import DashboardCheck.Text.Split

/-!
The scenarios of a run, and the report on them. Scenarios run in one fixed order, whatever the order
in which they are asked for.
-/
namespace DashboardCheck

inductive Scenario where
  /-- One unit is active and the others redirect. -/
  | dashboardUnits
  /-- A user can be made, but not twice. -/
  | createUser
  /-- A new user can log in. -/
  | accessDashboard
  /-- The keys of other applications are there. -/
  | cephKeys
  /-- Single sign-on works. -/
  | saml
  deriving DecidableEq, Repr

namespace Scenario

def all : List Scenario := [dashboardUnits, createUser, accessDashboard, cephKeys, saml]

def name : Scenario → String
  | dashboardUnits => "dashboard_units"
  | createUser => "create_user"
  | accessDashboard => "access_dashboard"
  | cephKeys => "ceph_keys"
  | saml => "saml"

/-- A name as it is looked up: without blanks at its ends, hyphens written as underscores. -/
def normalName (s : String) : String :=
  String.ofList ((Text.trim s).toList.map fun c => if c = '-' then '_' else c)

def ofName? (s : String) : Option Scenario :=
  all.find? fun scenario => scenario.name == normalName s

/-- The scenarios of names. The first that names none is an error. -/
def ofNames : List String → Except CheckError (List Scenario)
  | [] => .ok []
  | s :: rest =>
    match ofName? s with
    | none => .error (.unknownScenario s (Text.join ", " (all.map name)))
    | some scenario => (ofNames rest).map (scenario :: ·)

/-- The scenarios that are asked for, in the order in which they run; all if none is named. -/
def select (names : List String) : Except CheckError (List Scenario) :=
  if names.isEmpty then .ok all
  else (ofNames names).map fun wanted => all.filter wanted.contains

end Scenario

inductive Verdict where
  | passed
  | skipped (reason : String)
  | failed (message : String)
  deriving DecidableEq, Repr

namespace Verdict

def label : Verdict → String
  | passed => "passed"
  | skipped _ => "skipped"
  | failed _ => "failed"

def text : Verdict → String
  | passed => "passed"
  | skipped reason => "skipped: " ++ reason
  | failed message => "failed: " ++ message

def toJson : Verdict → Json.Value
  | passed => .object [("status", .string "passed")]
  | skipped reason => .object [("status", .string "skipped"), ("reason", .string reason)]
  | failed message => .object [("status", .string "failed"), ("message", .string message)]

end Verdict

structure ScenarioReport where
  name : String
  verdict : Verdict
  durationMs : Nat
  deriving DecidableEq, Repr

structure SuiteReport where
  scenarios : List ScenarioReport
  passed : Nat
  failed : Nat
  skipped : Nat
  deriving DecidableEq, Repr

namespace SuiteReport

def empty : SuiteReport := ⟨[], 0, 0, 0⟩

def push (r : SuiteReport) (s : ScenarioReport) : SuiteReport :=
  let r := { r with scenarios := r.scenarios ++ [s] }
  match s.verdict with
  | .passed => { r with passed := r.passed + 1 }
  | .skipped _ => { r with skipped := r.skipped + 1 }
  | .failed _ => { r with failed := r.failed + 1 }

def isSuccess (r : SuiteReport) : Bool := r.failed == 0

def toJson (r : SuiteReport) : Json.Value :=
  .object
    [("scenarios", .array (r.scenarios.map fun s => .object
      [("name", .string s.name), ("outcome", s.verdict.toJson),
       ("duration_ms", .integer s.durationMs)])),
     ("passed", .integer r.passed), ("failed", .integer r.failed),
     ("skipped", .integer r.skipped)]

end SuiteReport

end DashboardCheck
