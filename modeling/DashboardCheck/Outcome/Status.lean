import DashboardCheck.Document.Shape
import DashboardCheck.Text.Blank
import DashboardCheck.Text.Lower

/-!
The status of an action. Reports spell it in any case and between blanks; its written form is lower
case. A status that is not known keeps its text.
-/
namespace DashboardCheck

inductive ActionStatus where
  | completed | failed | pending | running | cancelled
  | other (text : String)
  deriving DecidableEq, Repr

namespace ActionStatus

def text : ActionStatus → String
  | completed => "completed"
  | failed => "failed"
  | pending => "pending"
  | running => "running"
  | cancelled => "cancelled"
  | other text => text

def toJson : ActionStatus → Json.Value
  | completed => .string "completed"
  | failed => .string "failed"
  | pending => .string "pending"
  | running => .string "running"
  | cancelled => .string "cancelled"
  | other text => .string text

/-- The status of exactly this name, if it is one of the known. -/
def named? : String → Option ActionStatus
  | "completed" => some completed
  | "failed" => some failed
  | "pending" => some pending
  | "running" => some running
  | "cancelled" => some cancelled
  | _ => none

/-- The status that a report names; `aborted` is another word for cancelled. -/
def ofReport (report : String) : ActionStatus :=
  let name := Text.lower (Text.trim report)
  if name = "aborted" then cancelled else (named? name).getD (other name)

/-- The status of exactly this written form. -/
def ofText (s : String) : ActionStatus := (named? s).getD (other s)

def isCompleted (s : ActionStatus) : Bool := s == completed

def isOther : ActionStatus → Bool
  | other _ => true
  | _ => false

open Document in
/-- The document form of a status: its text, or a table with a known name and null. -/
def shape : Shape ActionStatus :=
  fun depth node => do
    let value ← Shape.any depth node
    match value, node with
    | .string s, _ => return ofText s
    | _, .table _ _ [(⟨.ok name, _⟩, .scalar _ .null, _)] _ =>
      match named? name with
      | some status => return status
      | none => throw ⟨.noAlternative "ActionStatus", none⟩
    | _, _ => throw ⟨.noAlternative "ActionStatus", none⟩

end ActionStatus

end DashboardCheck
