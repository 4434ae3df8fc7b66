import DashboardCheck.Disk
import DashboardCheck.Duration
import DashboardCheck.Http.Message
import DashboardCheck.Orchestrator.Call

/-!
What a run does to the world outside, in order. Everything that is counted or logged is read off
this record.
-/
namespace DashboardCheck

/-- A thing done. -/
inductive Event where
  /-- The orchestrator was called. -/
  | called (call : Call)
  /-- A request was tried, be it for the first time or again. -/
  | tried (method : Http.Method)
  /-- A server was given a request. -/
  | sent (request : Http.Request)
  /-- A request will be tried again after a wait. -/
  | waited (wait : Duration)
  /-- A name was made up. -/
  | named (name : String)
  /-- A temporary file or directory was made. -/
  | made (path : String) (entry : Entry)
  /-- A file was read. -/
  | read (path : String)
  /-- A scenario ended, with a result of this name. -/
  | ended (result : String)
  deriving DecidableEq, Repr

/-- What was done, first things first. -/
abbrev Trace := List Event

/-- What was done and what the disk holds. -/
structure World where
  trace : Trace
  disk : Disk

namespace Trace

def calls (t : Trace) : List Call :=
  t.filterMap fun
    | .called call => some call
    | _ => none

def requests (t : Trace) : List Http.Request :=
  t.filterMap fun
    | .sent request => some request
    | _ => none

def tries (t : Trace) (method : Http.Method) : Nat := t.count (.tried method)

def retries (t : Trace) : Nat :=
  t.countP fun
    | .waited _ => true
    | _ => false

def namesMade (t : Trace) : Nat :=
  t.countP fun
    | .named _ => true
    | _ => false

def tempsMade (t : Trace) : Nat :=
  t.countP fun
    | .made _ _ => true
    | _ => false

def results (t : Trace) (result : String) : Nat := t.count (.ended result)

end Trace

end DashboardCheck
