import DashboardCheck.Outcome.Status
import DashboardCheck.Json.Reading

/-!
What came of an action or of a command that ran on a unit.
-/
namespace DashboardCheck

open Document Json

structure ActionOutcome where
  /-- The unit that ran it. -/
  unit : String
  status : ActionStatus
  results : Value
  message : Option String
  deriving Repr

namespace ActionOutcome

def result? (o : ActionOutcome) (name : String) : Option String :=
  (o.results.get? name).bind Value.text?

/-- One line about the outcome. The results are left out. -/
def line (o : ActionOutcome) : String :=
  s!"{o.status.text} on {o.unit}" ++
    match o.message with
    | some message => ": " ++ message
    | none => ""

/-- The fields in their order, each with what is written of it. -/
def members (o : ActionOutcome) : List (String × Value) :=
  [("unit", .string o.unit), ("status", o.status.toJson), ("results", o.results),
    ("message", .ofText? o.message)]

def toJson (o : ActionOutcome) : Value := .ofMembers o.members

def write (o : ActionOutcome) : String := (Value.object o.members).compact

/-- The fields of an outcome in a document. The message may be left out of a table. -/
def record : Shape.Record ActionOutcome where
  name := "ActionOutcome"
  fields :=
    [.needed "unit" Shape.text fun unit o => { o with unit },
     .needed "status" ActionStatus.shape fun status o => { o with status },
     .needed "results" Shape.any fun results o => { o with results },
     ⟨"message",
      fun depth node =>
        (Shape.optional Shape.text depth node).map fun message o => { o with message },
      false, true⟩]
  start := ⟨"", .other "", .null, none⟩

def ofJson (text : String) : Except Failure ActionOutcome :=
  Json.read record.shape text

end ActionOutcome

structure CommandOutcome where
  /-- The unit that ran it. -/
  unit : String
  code : Int
  stdout : String
  stderr : String
  deriving Repr, DecidableEq

namespace CommandOutcome

def succeeded (o : CommandOutcome) : Bool := o.code == 0

def toJson (o : CommandOutcome) : Value :=
  .ofMembers [("unit", .string o.unit), ("code", .integer o.code), ("stdout", .string o.stdout),
    ("stderr", .string o.stderr)]

/-- The smallest and largest exit code of 32 bits. -/
def minCode : Int := -2147483648
@[inherit_doc minCode] def maxCode : Int := 2147483647

def record : Shape.Record CommandOutcome where
  name := "CommandOutcome"
  fields :=
    [.needed "unit" Shape.text fun unit o => { o with unit },
     .needed "code" (Shape.integer minCode maxCode "i32") fun code o => { o with code },
     .needed "stdout" Shape.text fun stdout o => { o with stdout },
     .needed "stderr" Shape.text fun stderr o => { o with stderr }]
  start := ⟨"", 0, "", ""⟩

def ofJson (text : String) : Except Failure CommandOutcome :=
  Json.read record.shape text

end CommandOutcome

end DashboardCheck
