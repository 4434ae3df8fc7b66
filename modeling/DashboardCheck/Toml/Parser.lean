import DashboardCheck.Toml.Item
import DashboardCheck.Toml.Text

/-!
Reading a TOML 1.1 text. A text is a row of lines with entries and headers; a value may reach over
lines between its brackets. Any trouble fails the whole text.
-/
namespace DashboardCheck.Toml

open Document

def nestingLimit : Nat := 80

/-- Whether a 128-bit number, signed or not, holds the integer. -/
def fits128 (n : Int) : Bool :=
  -Int.pow 2 127 ≤ n && n < Int.pow 2 128

/-- A truth value, number or time. `mark` is where it stands. -/
def ofWord? (mark : Nat) (cs : List Char) : Option Item :=
  if cs = ['t', 'r', 'u', 'e'] then some (.scalar mark (.bool true))
  else if cs = ['f', 'a', 'l', 's', 'e'] then some (.scalar mark (.bool false))
  else if isMoment cs then some (.moment mark (String.ofList cs))
  else match integer? cs with
    | some (some n) => some (if fits128 n then .scalar mark (.integer n) else .beyond mark)
    | some none => some (.beyond mark)
    | none =>
      (float? cs).map fun x =>
        if x.isInf && !cs.contains 'f' then .beyond mark else .scalar mark (.float x)

def addEntry (keys : List Step) (value : Item) (entries : Dict Item) : Option (Dict Item) :=
  keys.getLast?.bind fun (name, _) => addValue keys.dropLast name value .braces entries

mutual

/-- A value. The numbers bound the parts that are read and how deep brackets nest. -/
def value? : Nat → Nat → Reader Item
  | 0, _, _ => none
  | fuel + 1, depth, cs =>
    match cs with
    | '[' :: rest =>
      if depth = 0 then none
      else (items? fuel (depth - 1) rest).map fun (items, rest) => (.array cs.length items, rest)
    | '\x7b' :: rest =>
      if depth = 0 then none
      else (entries? fuel (depth - 1) [] rest).map fun (entries, rest) =>
        (.table cs.length .braces entries, rest)
    | c :: _ =>
      if c = '"' || c = '\'' then
        (string? cs).map fun (s, rest) => (.scalar cs.length (.string s), rest)
      else
        let (w, rest) := word cs
        (ofWord? cs.length w).map (·, rest)
    | [] => none

def items? : Nat → Nat → Reader (List Item)
  | 0, _, _ => none
  | fuel + 1, depth, cs => do
    let cs ← skipLines? cs.length cs
    match cs with
    | ']' :: rest => return ([], rest)
    | _ =>
      let (item, rest) ← value? fuel depth cs
      let rest ← skipLines? rest.length rest
      match rest with
      | ',' :: rest =>
        let (items, rest) ← items? fuel depth rest
        return (item :: items, rest)
      | ']' :: rest => return ([item], rest)
      | _ => none

/-- The entries of a table between braces, from behind the brace or a comma. -/
def entries? : Nat → Nat → Dict Item → Reader (Dict Item)
  | 0, _, _, _ => none
  | fuel + 1, depth, entries, cs => do
    let cs ← skipLines? cs.length cs
    match cs with
    | '\x7d' :: rest => return (entries, rest)
    | _ =>
      let (keys, rest) ← keys? cs.length cs
      let rest ← skipLines? rest.length rest
      match rest with
      | '=' :: rest =>
        let rest ← skipLines? rest.length rest
        let (value, rest) ← value? fuel depth rest
        let entries ← addEntry keys value entries
        let rest ← skipLines? rest.length rest
        match rest with
        | ',' :: rest => entries? fuel depth entries rest
        | '\x7d' :: rest => return (entries, rest)
        | _ => none
      | _ => none

end

/-- The text behind the rest of a line, which holds nothing but blanks and a comment. -/
def lineEnd? (cs : List Char) : Option (List Char) :=
  (skipComment? (skipSpace cs)).bind fun
    | [] => some []
    | rest => newline? rest

def entryLine? (draft : Draft) : Reader Draft := fun cs => do
  let (keys, rest) ← keys? cs.length cs
  match rest with
  | '=' :: rest =>
    let rest := skipSpace rest
    let (value, rest) ← value? (rest.length + 1) nestingLimit rest
    let (name, _) ← keys.getLast?
    let draft ← draft.add keys.dropLast name value
    return (draft, rest)
  | _ => none

/-- A header, from behind its first bracket; `mark` is where that stands. -/
def header? (mark : Nat) (draft : Draft) : Reader Draft := fun cs => do
  let (several, cs) := match cs with
    | '[' :: rest => (true, rest)
    | _ => (false, cs)
  let (keys, rest) ← keys? (cs.length + 1) (skipSpace cs)
  let (name, _) ← keys.getLast?
  let draft ← draft.start keys.dropLast name several mark
  match several, rest with
  | false, ']' :: rest => return (draft, rest)
  | true, ']' :: ']' :: rest => return (draft, rest)
  | _, _ => none

def lines? : Nat → Draft → List Char → Option Draft
  | 0, _, _ => none
  | fuel + 1, draft, cs => do
    let cs ← skipLines? cs.length cs
    match cs with
    | [] => return draft
    | c :: rest =>
      let (draft, rest) ← if c = '[' then header? cs.length draft rest else entryLine? draft cs
      let rest ← lineEnd? rest
      lines? fuel draft rest

/-- The document that a text writes. A mark of the byte order at its start is passed over. -/
def parse? (text : String) : Option Node := do
  let cs := match text.toList with
    | '\ufeff' :: rest => rest
    | cs => cs
  let draft ← lines? (cs.length + 1) ⟨[], none, []⟩ cs
  let entries ← draft.finish
  return .table 0 .smooth (entryNodes text.length entries) none

end DashboardCheck.Toml
