import DashboardCheck.Check.Keys
import DashboardCheck.Check.Login
import DashboardCheck.Check.Saml
import DashboardCheck.Check.Scenario

/-!
Running scenarios. Whatever ends a scenario early fails that scenario only; the others run all the
same.
-/
namespace DashboardCheck

namespace Context

def carryOut (ctx : Context) : Scenario → Program CheckError Verdict
  | .dashboardUnits => do
    let _ ← ctx.verifyTopology
    return .passed
  | .createUser => do
    ctx.checkCreateUser
    return .passed
  | .accessDashboard => do
    let url ← ctx.requireActive Scenario.accessDashboard.name
    ctx.accessDashboard url
    return .passed
  | .cephKeys => do
    let _ ← checkExpectedKeys ctx.application
    return .passed
  | .saml => do
    match ← ctx.checkSaml with
    | .verified _ _ => return .passed
    | .skipped release minimum =>
      return .skipped s!"release {release.text} is older than {minimum.text}"

/-- The verdict on a scenario that ended like this. An assertion speaks for itself. -/
def verdictOf : Except CheckError Verdict → Verdict
  | .ok verdict => verdict
  | .error (.assertion _ message) => .failed message
  | .error e => .failed e.message

/-- Where log lines about scenarios come from. -/
def suiteTarget : String := "dashprobe_dashboard::suite"

def endLine (scenario : Scenario) (ms : Nat) : Verdict → LogLine
  | .failed message => ⟨.error, suiteTarget, "scenario failed",
      [("scenario", .text scenario.name), ("duration_ms", .elapsed ms),
       ("error", .text message)]⟩
  | verdict => ⟨.info, suiteTarget, "scenario finished",
      [("scenario", .text scenario.name), ("duration_ms", .elapsed ms),
       ("outcome", .text verdict.text)]⟩

def runScenario (ctx : Context) (scenario : Scenario) : Program CheckError ScenarioReport := do
  Program.log ⟨.info, suiteTarget, "scenario started", [("scenario", .text scenario.name)]⟩
  let started ← Program.now
  let verdict := verdictOf (← (ctx.carryOut scenario).attempt)
  let ended ← Program.now
  Program.log (endLine scenario (ended - started) verdict)
  Program.note (.ended verdict.label)
  return ⟨scenario.name, verdict, ended - started⟩

def runAll (ctx : Context) : List Scenario → SuiteReport → Program CheckError SuiteReport
  | [], report => return report
  | scenario :: rest, report => do
    let entry ← ctx.runScenario scenario
    ctx.runAll rest (report.push entry)

/-- Runs the scenarios that are asked for. A wrong name is an error before anything is run. -/
def run (ctx : Context) (names : List String) : Program CheckError SuiteReport := do
  let scenarios ← Program.ofExcept (Scenario.select names)
  let report ← ctx.runAll scenarios .empty
  Program.log ⟨.info, suiteTarget, "suite finished",
    [("passed", .number report.passed), ("failed", .number report.failed),
     ("skipped", .number report.skipped)]⟩
  return report

end Context

end DashboardCheck
