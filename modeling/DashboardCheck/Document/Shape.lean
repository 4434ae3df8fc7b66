import DashboardCheck.Json.Value

/-!
Reading a document into values of a known shape. A reader walks the document in the order of its
text and stops at the first thing that does not fit; a complaint without a place gets the place at
which the surrounding part is given up.
-/
namespace DashboardCheck.Document

/-- Reads a node; the number limits how deep lists and tables may nest. -/
abbrev Shape (α : Type) := Nat → Node → Except Failure α

def depthLimit : Nat := 128

def Node.mismatch (node : Node) (expected : String) : Failure :=
  match node with
  | .broken trouble => .ofFault trouble.reading
  | .unreadable fault => .ofFault fault
  | .scalar mark value => ⟨.wrongType (.scalar value) expected, some mark⟩
  | .list mark _ _ _ => ⟨.wrongType .list expected, some mark⟩
  | .table mark _ _ _ => ⟨.wrongType .table expected, some mark⟩

namespace Shape

def text : Shape String
  | _, .scalar _ (.string s) => .ok s
  | _, node => .error (node.mismatch "a string")

def bool : Shape Bool
  | _, .scalar _ (.bool b) => .ok b
  | _, node => .error (node.mismatch "a boolean")

def integer (low high : Int) (name : String) : Shape Int
  | _, .scalar mark (.integer n) =>
    if low ≤ n && n ≤ high then .ok n
    else if fits64 n then .error ⟨.wrongValue (.scalar (.integer n)) name, some mark⟩
    else .error ⟨.wrongType (.scalar (.integer n)) name, some mark⟩
  | _, node => .error (node.mismatch name)

def natural (limit : Nat) (name : String) : Shape Nat :=
  fun depth node => (integer 0 limit name depth node).map Int.toNat

def optional {α : Type} (shape : Shape α) : Shape (Option α)
  | _, .scalar _ .null => .ok none
  | depth, node => (shape depth node).map some

def tooDeep (mark : Nat) : Failure := ⟨.fault .tooDeep, some (mark + 1)⟩

def items {α : Type} (read : Node → Except Failure α) :
    List (Node × Closing) → Except Failure (List α)
  | [] => .ok []
  | (node, closing) :: rest => do
    let value ← (read node).mapError (·.locate closing.offset)
    let values ← items read rest
    return value :: values

def entries {α : Type} (read : Node → Except Failure α) :
    List (Key × Node × Closing) → Except Failure (List (String × α))
  | [] => .ok []
  | (key, node, closing) :: rest => do
    let name ← key.name.mapError Failure.ofFault
    let value ← (read node).mapError (·.locate closing.offset)
    let values ← entries read rest
    return (name, value) :: values

def whole (stop : Option Break) : Except Failure Unit :=
  match stop with
  | some trouble => .error (.ofFault trouble.reading)
  | none => .ok ()

def dictOf {α : Type} (shape : Shape α) : Shape (Dict α)
  | depth, .table mark _ members stop => do
    if depth ≤ 1 then throw (tooDeep mark)
    let found ← entries (shape (depth - 1)) members
    whole stop
    return Dict.ofList found
  | _, node => .error (node.mismatch "a map")

def any : Shape Json.Value
  | _, .scalar _ .null => .ok .null
  | _, .scalar _ (.bool b) => .ok (.bool b)
  | _, .scalar _ (.integer n) => .ok (.integer n)
  | _, .scalar _ (.float x) => .ok (.float x)
  | _, .scalar _ (.string s) => .ok (.string s)
  | depth + 1, .list mark _ found stop => do
    if depth = 0 then throw (tooDeep mark)
    let values ← items (any depth) found
    whole stop
    return .array values
  | depth + 1, .table mark _ members stop => do
    if depth = 0 then throw (tooDeep mark)
    let found ← entries (any depth) members
    whole stop
    return .ofMembers found
  | _, node => .error (node.mismatch "any value")

/-- A field of a record that is filled in step by step. -/
structure Field (σ : Type) where
  name : String
  read : Shape (σ → σ)
  /-- Whether a table must have it. -/
  inTable : Bool
  /-- Whether a list must reach it. -/
  inList : Bool

def Field.withDefault {σ α : Type} (name : String) (shape : Shape α) (put : α → σ → σ) : Field σ :=
  ⟨name, fun depth node => (shape depth node).map put, false, false⟩

def Field.needed {σ α : Type} (name : String) (shape : Shape α) (put : α → σ → σ) : Field σ :=
  ⟨name, fun depth node => (shape depth node).map put, true, true⟩

/-- A record: a table with its fields by name, or a list with its fields in order. -/
structure Record (σ : Type) where
  name : String
  fields : List (Field σ)
  start : σ

variable {σ : Type}

/-- Takes in the entries of a table; `seen` are the fields met so far. Unknown names are passed
over. -/
def Record.ofMembers (record : Record σ) (depth : Nat) :
    List (Key × Node × Closing) → List String → σ → Except Failure (List String × σ)
  | [], seen, state => .ok (seen, state)
  | (key, node, closing) :: rest, seen, state =>
    match key.name with
    | .error fault => .error (.ofFault fault)
    | .ok name =>
      match record.fields.find? fun field => field.name == name with
      | none =>
        match node.skip with
        | some fault => .error (.ofFault fault)
        | none => record.ofMembers depth rest seen state
      | some field =>
        if seen.contains name then
          .error ⟨.repeatedField name, some key.closing.offset⟩
        else match field.read depth node with
          | .error failure => .error (failure.locate closing.offset)
          | .ok put => record.ofMembers depth rest (name :: seen) (put state)

def Record.listExpectation (record : Record σ) : String :=
  let n := record.fields.length
  s!"struct {record.name} with {n} element" ++ if n = 1 then "" else "s"

/-- Takes in the items of a list, field by field. `count` fields are done; `closing` is what
happens to one who wants the list to end here. -/
def Record.ofItems (record : Record σ) (depth : Nat) (stop : Option Break) :
    List (Field σ) → List (Node × Closing) → Nat → Closing → σ → Except Failure σ
  | [], _, _, closing, state =>
    match closing.fault with
    | some fault => .error (.ofFault fault)
    | none => .ok state
  | field :: fields, (node, closing) :: rest, count, _, state =>
    match field.read depth node with
    | .error failure => .error (failure.locate closing.offset)
    | .ok put => record.ofItems depth stop fields rest (count + 1) closing (put state)
  | field :: fields, [], count, closing, state =>
    match stop with
    | some trouble => .error (.ofFault trouble.reading)
    | none =>
      if field.inList then .error ⟨.wrongLength count record.listExpectation, some closing.offset⟩
      else record.ofItems depth stop fields [] (count + 1) closing state

def Record.shape (record : Record σ) : Shape σ
  | depth, .table mark opened members stop => do
    if depth ≤ 1 then throw (tooDeep mark)
    let (seen, state) ← record.ofMembers (depth - 1) members [] record.start
    whole stop
    let stopped := (members.getLast?.map fun member => member.2.2).getD opened
    match record.fields.find? fun field => field.inTable && !seen.contains field.name with
    | some field => throw ⟨.missingField field.name, some stopped.offset⟩
    | none => return state
  | depth, .list mark opened found stop => do
    if depth ≤ 1 then throw (tooDeep mark)
    record.ofItems (depth - 1) stop record.fields found 0 opened record.start
  | _, node => .error (node.mismatch s!"struct {record.name}")

end Shape

end DashboardCheck.Document
