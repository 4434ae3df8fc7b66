import DashboardCheck.Number.Numeral
import DashboardCheck.Text.Quoted

/-!
Writing TOML: a string takes the plainest form that needs no escapes, and is written with escapes
only if there is no such form.
-/
namespace DashboardCheck.Toml

/-- A character that no form but one with escapes can hold. The tab is none. -/
def needsCode (c : Char) : Bool :=
  (c.toNat < 0x20 && c != '\t' && c != '\n') || c.toNat == 0x7F

def longestRow (c : Char) (cs : List Char) : Nat :=
  (cs.foldl (fun (longest, row) d =>
    if d = c then (max longest (row + 1), row + 1) else (longest, 0)) (0, 0)).1

inductive StringForm where
  /-- Between double quotes, with escapes. -/
  | basic
  /-- Between single quotes. -/
  | literal
  /-- Between three double quotes, with escapes. -/
  | longBasic
  /-- Between three single quotes. -/
  | longLiteral
  deriving DecidableEq, Repr

def StringForm.of (cs : List Char) : StringForm :=
  let codes := cs.any needsCode
  let line := !cs.contains '\n'
  if !codes && line && !cs.contains '\\' && !cs.contains '"' then .basic
  else if !codes && line && !cs.contains '\'' then .literal
  else if !codes && !cs.contains '\\' && longestRow '"' cs ≤ 2 then .longBasic
  else if !codes && longestRow '\'' cs ≤ 2 then .longLiteral
  else if line then .basic else .longBasic

/-- The hexadecimal digits of a number below 256. -/
def twoHex (n : Nat) : List Char :=
  (Text.hexDigits (n / 16 % 16) ++ Text.hexDigits (n % 16)).map Char.toUpper

def escaped (quoteNow long : Bool) (c : Char) : List Char :=
  if c = '\x08' then ['\\', 'b']
  else if c = '\t' then ['\\', 't']
  else if c = '\n' then if long then ['\n'] else ['\\', 'n']
  else if c = '\x0c' then ['\\', 'f']
  else if c = '\r' then ['\\', 'r']
  else if c = '"' then if quoteNow then ['\\', '"'] else ['"']
  else if c = '\\' then ['\\', '\\']
  else if c.toNat < 0x20 || c.toNat == 0x7F then ['\\', 'u', '0', '0'] ++ twoHex c.toNat
  else [c]

/-- Text inside a form with escapes. Between three quotes only each third quote in a row is
escaped; `row` counts the quotes since. -/
def escapeAll (long : Bool) : Nat → List Char → List Char
  | _, [] => []
  | row, c :: rest =>
    let quoteNow := !long || row == 2
    let row := if c = '"' && !quoteNow then row + 1 else 0
    escaped quoteNow long c ++ escapeAll long row rest

/-- A string. A long form of several lines starts on a line of its own. -/
def writeString (s : String) : List Char :=
  let cs := s.toList
  let start : List Char := if cs.contains '\n' then ['\n'] else []
  let long := ['"', '"', '"']
  let longSingle := ['\'', '\'', '\'']
  match StringForm.of cs with
  | .basic => '"' :: escapeAll false 0 cs ++ ['"']
  | .literal => '\'' :: cs ++ ['\'']
  | .longBasic => long ++ start ++ escapeAll true 0 cs ++ long
  | .longLiteral => longSingle ++ start ++ cs ++ longSingle

def writeEntry (name : String) (value : List Char) : List Char :=
  name.toList ++ [' ', '=', ' '] ++ value ++ ['\n']

def writeHeader (name : String) : List Char :=
  '[' :: name.toList ++ [']', '\n']

end DashboardCheck.Toml
