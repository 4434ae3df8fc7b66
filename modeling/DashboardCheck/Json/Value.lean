import DashboardCheck.Dict
import DashboardCheck.Document.Failure

/-!
JSON values. Objects are dictionaries, so their order is that of their names and a repeated name
keeps its last value.
-/
namespace DashboardCheck.Json

open Document

/-- A JSON value. Integers are those that 64 bits hold; any other number is binary. -/
inductive Value where
  | null
  | bool (b : Bool)
  | integer (n : Int)
  | float (x : Float)
  | string (s : String)
  | array (items : List Value)
  | object (members : List (String × Value))
  deriving Repr, Inhabited

def Value.get? (value : Value) (name : String) : Option Value :=
  match value with
  | .object members => Dict.get? members name
  | _ => none

def Value.text? : Value → Option String
  | .string s => some s
  | _ => none

def Value.ofMembers (members : List (String × Value)) : Value :=
  .object (Dict.ofList members)

def Value.ofText? : Option String → Value
  | some s => .string s
  | none => .null

def writeChar (c : Char) : List Char :=
  if c = '"' then ['\\', '"']
  else if c = '\\' then ['\\', '\\']
  else if c = '\x08' then ['\\', 'b']
  else if c = '\x0c' then ['\\', 'f']
  else if c = '\n' then ['\\', 'n']
  else if c = '\r' then ['\\', 'r']
  else if c = '\t' then ['\\', 't']
  else if c.toNat < 0x20 then
    ['\\', 'u', '0', '0'] ++ (if c.toNat < 0x10 then ['0'] else ['1']) ++
      (Text.hexDigits (c.toNat % 16))
  else [c]

def writeString (s : String) : List Char :=
  '"' :: s.toList.flatMap writeChar ++ ['"']

/-- A number without a fraction. -/
def writeInteger (n : Int) : List Char :=
  match n with
  | .ofNat n => Number.digitsOf n
  | .negSucc n => '-' :: Number.digitsOf (n + 1)

/-- A binary number; those that are not finite have no text of their own. -/
def writeFloat (x : Float) : List Char :=
  if x.isFinite then (Number.renderFloat .scientific x).toList else ['n', 'u', 'l', 'l']

def writeScalar : Scalar → List Char
  | .null => ['n', 'u', 'l', 'l']
  | .bool true => ['t', 'r', 'u', 'e']
  | .bool false => ['f', 'a', 'l', 's', 'e']
  | .integer n => writeInteger n
  | .float x => writeFloat x
  | .string s => writeString s

mutual

def Value.compactChars : Value → List Char
  | .null => writeScalar .null
  | .bool b => writeScalar (.bool b)
  | .integer n => writeScalar (.integer n)
  | .float x => writeScalar (.float x)
  | .string s => writeScalar (.string s)
  | .array items => '[' :: compactItems items ++ [']']
  | .object members => '\x7b' :: compactMembers members ++ ['\x7d']

def compactItems : List Value → List Char
  | [] => []
  | [item] => item.compactChars
  | item :: rest => item.compactChars ++ ',' :: compactItems rest

def compactMembers : List (String × Value) → List Char
  | [] => []
  | [(name, value)] => writeString name ++ ':' :: value.compactChars
  | (name, value) :: rest =>
    writeString name ++ ':' :: value.compactChars ++ ',' :: compactMembers rest

end

def Value.compact (value : Value) : String :=
  String.ofList value.compactChars

def newLine (depth : Nat) : List Char :=
  '\n' :: List.replicate (2 * depth) ' '

mutual

def Value.prettyChars (depth : Nat) : Value → List Char
  | .null => writeScalar .null
  | .bool b => writeScalar (.bool b)
  | .integer n => writeScalar (.integer n)
  | .float x => writeScalar (.float x)
  | .string s => writeScalar (.string s)
  | .array [] => ['[', ']']
  | .array items => '[' :: prettyItems (depth + 1) items ++ newLine depth ++ [']']
  | .object [] => ['\x7b', '\x7d']
  | .object members => '\x7b' :: prettyMembers (depth + 1) members ++ newLine depth ++ ['\x7d']

def prettyItems (depth : Nat) : List Value → List Char
  | [] => []
  | [item] => newLine depth ++ item.prettyChars depth
  | item :: rest => newLine depth ++ item.prettyChars depth ++ ',' :: prettyItems depth rest

def prettyMembers (depth : Nat) : List (String × Value) → List Char
  | [] => []
  | [(name, value)] => newLine depth ++ writeString name ++ ':' :: ' ' :: value.prettyChars depth
  | (name, value) :: rest =>
    newLine depth ++ writeString name ++ ':' :: ' ' :: value.prettyChars depth ++
      ',' :: prettyMembers depth rest

end

def Value.pretty (value : Value) : String :=
  String.ofList (value.prettyChars 0)

end DashboardCheck.Json
