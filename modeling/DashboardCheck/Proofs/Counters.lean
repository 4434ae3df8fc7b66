import DashboardCheck.World.Metrics

/-!
# What counters show

A counter is read off the record of what was done, and one that never moved is not there. What the
counters of requests show together, less what the counter of further attempts shows, is a number of
its own: it grows by one with each request that is asked for. The counters of scenarios show how
many ended in each way.
-/
namespace DashboardCheck

namespace Trace

/-- The waits, first things first. -/
def waits (t : Trace) : List Duration :=
  t.filterMap fun
    | .waited wait => some wait
    | _ => none

/-- What a counter shows. One that never moved is not there, and shows nothing. -/
def reading (t : Trace) (name : String) (label : Option (String × String)) : Nat :=
  ((t.counters.find? fun c => c.name == name && c.label == label).map Counter.value).getD 0

def requestReading (t : Trace) (method : Http.Method) : Nat :=
  t.reading requestCounter (some ("method", method.name))

def retryReading (t : Trace) : Nat := t.reading retryCounter none

def scenarioReading (t : Trace) (result : String) : Nat :=
  t.reading scenarioCounter (some ("result", result))

/-- What the counters of requests show together, less the counter of those tried again. -/
def surplus (t : Trace) : Int :=
  (t.requestReading .get + t.requestReading .post : Nat) - (t.retryReading : Int)

variable (t : Trace)

theorem requestReading_eq (method : Http.Method) : t.requestReading method = t.tries method := by
  by_cases h : t.tries method = 0 <;> cases method <;>
    simp [requestReading, reading, counters, requestCounter, retryCounter, scenarioCounter,
      Http.Method.name, h]

theorem retryReading_eq : t.retryReading = t.retries := by
  by_cases h : t.retries = 0 <;>
    simp [retryReading, reading, counters, requestCounter, retryCounter, scenarioCounter, h]

theorem scenarioReading_eq {result : String}
    (hresult : result = "passed" ∨ result = "failed" ∨ result = "skipped") :
    t.scenarioReading result = t.results result := by
  by_cases h : t.results result = 0 <;> rcases hresult with rfl | rfl | rfl <;>
    simp [scenarioReading, reading, counters, requestCounter, retryCounter, scenarioCounter, h]

theorem retries_eq_length_waits : t.retries = t.waits.length := by
  rw [retries, waits, List.length_filterMap_eq_countP]
  refine List.countP_congr fun event _ => ?_
  cases event <;> simp

theorem tries_append (later : Trace) (method : Http.Method) :
    tries (t ++ later) method = t.tries method + later.tries method :=
  List.count_append

theorem results_append (later : Trace) (result : String) :
    results (t ++ later) result = t.results result + later.results result :=
  List.count_append

theorem waits_append (later : Trace) : waits (t ++ later) = t.waits ++ later.waits :=
  List.filterMap_append

end Trace

end DashboardCheck
