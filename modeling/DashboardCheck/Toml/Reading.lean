import DashboardCheck.Document.Shape
import DashboardCheck.Toml.Parser

/-!
Reading TOML texts into values of a known shape. A text that is no TOML fails without a place; a
text with a value of the wrong kind fails at that value.
-/
namespace DashboardCheck.Toml

open Document

inductive ReadError where
  | syntaxError
  /-- A value that does not fit. The place is that of its first character. -/
  | misfit (line column : Nat) (complaint : Complaint)
  deriving Repr

def ReadError.message : ReadError → String
  | syntaxError => "TOML syntax error"
  | misfit line column complaint =>
    s!"TOML parse error at line {line}, column {column}: {complaint.message .toml}"

/-- The line and the column, both from 1, of the character behind so many. -/
def place (text : String) (offset : Nat) : Nat × Nat :=
  let before := text.toList.take offset
  let line := before.count '\n' + 1
  (line, (before.reverse.takeWhile (· != '\n')).length + 1)

/-- The error of a failure. A number beyond every type counts as bad syntax. -/
def ReadError.ofFailure (text : String) (failure : Failure) : ReadError :=
  match failure.complaint with
  | .wrongType .. | .wrongValue .. =>
    let (line, column) := place text (failure.offset.getD 0)
    .misfit line column failure.complaint
  | _ => .syntaxError

def read {α : Type} (shape : Shape α) (text : String) : Except ReadError α :=
  match parse? text with
  | none => .error .syntaxError
  | some node => (shape depthLimit node).mapError (.ofFailure text)

end DashboardCheck.Toml
