import DashboardCheck.Document.Basic
import DashboardCheck.Number.Shortest
import DashboardCheck.Text.Quoted

/-!
Why a document does not have the shape that is asked for. A complaint names what was found and what
was expected; a failure says where.
-/
namespace DashboardCheck.Document

/-- What was found instead of the expected. -/
inductive Finding where
  | scalar (value : Scalar)
  | list
  | table
  deriving Repr

/-- What is wrong with a part of a document. -/
inductive Complaint where
  | fault (kind : FaultKind)
  | wrongType (found : Finding) (expected : String)
  | wrongValue (found : Finding) (expected : String)
  | wrongLength (length : Nat) (expected : String)
  | missingField (name : String)
  | repeatedField (name : String)
  /-- No alternative of this type fits. -/
  | noAlternative (type : String)
  | other (text : String)
  deriving Repr

/-- A complaint, with its place once that is known. -/
structure Failure where
  complaint : Complaint
  offset : Option Nat
  deriving Repr

/-- Whether a 64-bit number, signed or not, holds the integer. -/
def fits64 (n : Int) : Bool :=
  -Int.pow 2 63 ≤ n && n < Int.pow 2 64

/-- How one kind of document words its complaints. -/
structure Wording where
  null : String
  float : Number.Style

def Wording.json : Wording := ⟨"null", .scientific⟩

def Wording.toml : Wording := ⟨"unit value", .positional⟩

def Finding.describe (w : Wording) : Finding → String
  | .scalar .null => w.null
  | .scalar (.bool b) => s!"boolean `{b}`"
  | .scalar (.integer n) =>
    if fits64 n then s!"integer `{n}`"
    else if -Int.pow 2 127 ≤ n && n < Int.pow 2 127 then s!"integer `{n}` as i128"
    else s!"integer `{n}` as u128"
  | .scalar (.float x) => s!"floating point `{Number.renderFloat w.float x}`"
  | .scalar (.string s) => s!"string {Text.quoted s}"
  | .list => "sequence"
  | .table => "map"

def Complaint.message (w : Wording) : Complaint → String
  | .fault kind => kind.message
  | .wrongType found expected => s!"invalid type: {found.describe w}, expected {expected}"
  | .wrongValue found expected => s!"invalid value: {found.describe w}, expected {expected}"
  | .wrongLength length expected => s!"invalid length {length}, expected {expected}"
  | .missingField name => s!"missing field `{name}`"
  | .repeatedField name => s!"duplicate field `{name}`"
  | .noAlternative type => s!"data did not match any variant of untagged enum {type}"
  | .other text => text

def Failure.ofFault (f : Fault) : Failure := ⟨.fault f.kind, some f.offset⟩

/-- Gives a failure a place unless it has one. -/
def Failure.locate (f : Failure) (offset : Nat) : Failure :=
  ⟨f.complaint, f.offset.or (some offset)⟩

end DashboardCheck.Document
