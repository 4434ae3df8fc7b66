import DashboardCheck.World.Trace

/-!
Counters, read off what was done. A counter that never moved is not there.
-/
namespace DashboardCheck

/-- A counter: its name, its label if it has one, and its value. -/
structure Counter where
  name : String
  label : Option (String × String)
  value : Nat
  deriving DecidableEq, Repr

def Counter.title (c : Counter) : String :=
  match c.label with
  | some (key, value) => c.name ++ "\x7b" ++ key ++ "=" ++ value ++ "\x7d"
  | none => c.name

namespace Trace

def requestCounter : String := "dashprobe_http_requests_total"

/-- The counter of attempts after the first. -/
def retryCounter : String := "dashprobe_http_retries_total"

def scenarioCounter : String := "dashprobe_scenarios_total"

def counters (t : Trace) : List Counter :=
  let requests := [Http.Method.get, .post].map fun method =>
    Counter.mk requestCounter (some ("method", method.name)) (t.tries method)
  let scenarios := ["passed", "failed", "skipped"].map fun result =>
    Counter.mk scenarioCounter (some ("result", result)) (t.results result)
  (requests ++ [Counter.mk retryCounter none t.retries] ++ scenarios).filter fun c => c.value != 0

end Trace

end DashboardCheck
