import DashboardCheck.Dict
import DashboardCheck.Document.Basic

/-!
What a TOML text says: values, and tables that headers and dotted keys build up. A table remembers
how it came to be, since that decides what may still be added to it. `mark` is how much of the text
was left where a part starts.
-/
namespace DashboardCheck.Toml

open Document

/-- How a table came to be. -/
inductive Origin where
  /-- By a header of its own, or as the whole text. -/
  | header
  /-- On the way to the table of a header. -/
  | implied
  /-- On the way to the last of dotted keys. -/
  | dotted
  /-- Between braces. -/
  | braces
  deriving DecidableEq, Repr

/-- A part of a TOML text. -/
inductive Item where
  | scalar (mark : Nat) (value : Scalar)
  /-- A number beyond every type, or what is written like a number and is none. -/
  | beyond (mark : Nat)
  | moment (mark : Nat) (text : String)
  | array (mark : Nat) (items : List Item)
  /-- The tables under headers between double brackets. -/
  | tables (mark : Nat) (items : List Item)
  | table (mark : Nat) (origin : Origin) (entries : List (String × Item))

abbrev Step := String × Nat

/-- Changes the table at the end of a path, making the tables on the way. `change` is told how that
table came to be. Tables between braces are closed, and so are tables with headers to dotted keys;
of several tables under one name the last is meant. -/
def update (byDots : Bool) (change : Origin → Dict Item → Option (Dict Item)) :
    List Step → Origin → Dict Item → Option (Dict Item)
  | [], origin, entries => change origin entries
  | (name, mark) :: path, _, entries =>
    match entries.get? name with
    | none => do
      let origin := if byDots then Origin.dotted else Origin.implied
      let inner ← update byDots change path origin []
      return entries.insert name (.table mark origin inner)
    | some (.table mark origin inner) =>
      if origin = .braces || (byDots && origin = .header) then none
      else do
        let inner ← update byDots change path origin inner
        return entries.insert name (.table mark origin inner)
    | some (.tables mark items) =>
      match items.reverse with
      | .table mark' origin inner :: earlier => do
        let inner ← update byDots change path origin inner
        return entries.insert name (.tables mark (earlier.reverse ++ [.table mark' origin inner]))
      | _ => none
    | some _ => none

/-- Adds a value under dotted keys; `none` if there is something in the way. -/
def addValue (path : List Step) (name : String) (value : Item) (origin : Origin)
    (entries : Dict Item) : Option (Dict Item) :=
  update (!path.isEmpty) (fun origin entries =>
    if (origin == .dotted) == path.isEmpty then none
    else if entries.holds name then none
    else some (entries.insert name value)) path origin entries

/-- A text in the making: the finished tables, and the table that is being filled. -/
structure Draft where
  root : Dict Item
  /-- The header of the table being filled: its path, name, whether it is one of several, mark. -/
  header : Option (List Step × String × Bool × Nat)
  current : Dict Item

def Draft.finish (d : Draft) : Option (Dict Item) :=
  match d.header with
  | none => some d.current
  | some (path, name, several, mark) =>
    let table := Item.table mark .header d.current
    update false (fun _ entries =>
      if several then
        match entries.get? name with
        | none => some (entries.insert name (.tables mark [table]))
        | some (.tables mark items) => some (entries.insert name (.tables mark (items ++ [table])))
        | some _ => none
      else some (entries.insert name table)) path .header d.root

/-- What a header finds at the end of its path: nothing yet, or the entries of a table that stands
on the way to others so far. Anything else there is in its way. -/
def reopen? : List Step → String → Dict Item → Option (Dict Item)
  | [], name, entries =>
    match entries.get? name with
    | none => some []
    | some (.table _ .implied inner) => some inner
    | some _ => none
  | (step, _) :: path, name, entries =>
    match entries.get? step with
    | none => some []
    | some (.table _ origin inner) => if origin = .braces then none else reopen? path name inner
    | some (.tables _ items) =>
      match items.getLast? with
      | some (.table _ _ inner) => reopen? path name inner
      | _ => none
    | some _ => none

/-- Starts the table of a header; the table before it is finished. -/
def Draft.start (d : Draft) (path : List Step) (name : String) (several : Bool) (mark : Nat) :
    Option Draft := do
  let root ← d.finish
  let kept ← if several then some [] else reopen? path name root
  return ⟨root, some (path, name, several, mark), kept⟩

def Draft.add (d : Draft) (path : List Step) (name : String) (value : Item) : Option Draft :=
  (addValue path name value .header d.current).map fun current => { d with current }

mutual

/-- A part of a text as a document. `size` is the length of the text, so that marks become
offsets. A moment is a table with one entry under a private name. -/
def Item.toNode (size : Nat) : Item → Node
  | .scalar mark value => .scalar (size - mark) value
  | .beyond mark => .broken (.both .outOfRange (size - mark))
  | .moment mark text =>
    let entry := (⟨.ok "$__toml_private_datetime", .smooth⟩, .plain (.string text), .smooth)
    .table (size - mark) .smooth [entry] none
  | .array mark items => .list (size - mark) .smooth (itemNodes size items) none
  | .tables mark items => .list (size - mark) .smooth (itemNodes size items) none
  | .table mark _ entries => .table (size - mark) .smooth (entryNodes size entries) none

def itemNodes (size : Nat) : List Item → List (Node × Closing)
  | [] => []
  | item :: rest => (item.toNode size, .smooth) :: itemNodes size rest

def entryNodes (size : Nat) : List (String × Item) → List (Key × Node × Closing)
  | [] => []
  | (name, item) :: rest =>
    (⟨.ok name, .smooth⟩, item.toNode size, .smooth) :: entryNodes size rest

end

end DashboardCheck.Toml
