import DashboardCheck.Json.Tree
import DashboardCheck.Document.Shape

/-!
Reading JSON texts and JSON values into values of a known shape.
-/
namespace DashboardCheck.Json

open Document

def read {α : Type} (shape : Shape α) (text : String) : Except Failure α :=
  let (node, trailing) := readText text
  match shape depthLimit node, trailing with
  | .error failure, _ => .error failure
  | .ok _, some fault => .error (.ofFault fault)
  | .ok value, none => .ok value

/-- A text is read if its document is, and if nothing follows that. -/
theorem read_eq_ok_iff {α : Type} {shape : Shape α} {text : String} {a : α} :
    read shape text = .ok a ↔
      shape depthLimit (readText text).1 = .ok a ∧ (readText text).2 = none := by
  rw [read]
  cases hread : shape depthLimit (readText text).1 with
  | error failure => simp [hread]
  | ok found => cases hrest : (readText text).2 <;> simp [hread, hrest]

def parse (text : String) : Except Failure Value :=
  read Shape.any text

def describe (text : String) (failure : Failure) : String :=
  let complaint := failure.complaint.message .json
  match failure.offset with
  | none => complaint
  | some offset =>
    let (line, column) := position text offset
    s!"{complaint} at line {line} column {column}"

mutual

/-- A value as a document without places. A list that is not used up to its end is one of too many
items. -/
def Value.toNode : Value → Node
  | .null => .plain .null
  | .bool b => .plain (.bool b)
  | .integer n => .plain (.integer n)
  | .float x => .plain (.float x)
  | .string s => .plain (.string s)
  | .array items =>
    .list 0 (if items.isEmpty then .smooth else ⟨some ⟨.tooManyItems items.length, 0⟩, 0⟩)
      (itemNodes items.length items) none
  | .object members => .table 0 .smooth (memberNodes members) none

def itemNodes (size : Nat) : List Value → List (Node × Closing)
  | [] => []
  | item :: rest =>
    (item.toNode, if rest.isEmpty then .smooth else ⟨some ⟨.tooManyItems size, 0⟩, 0⟩) ::
      itemNodes size rest

def memberNodes : List (String × Value) → List (Key × Node × Closing)
  | [] => []
  | (name, value) :: rest => (⟨.ok name, .smooth⟩, value.toNode, .smooth) :: memberNodes rest

end

/-- Reads a value into another shape; the failure has no place. -/
def Value.read {α : Type} (shape : Shape α) (value : Value) : Except Complaint α :=
  (shape depthLimit value.toNode).mapError Failure.complaint

end DashboardCheck.Json
