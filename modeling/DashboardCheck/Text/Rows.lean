import DashboardCheck.Number.Numeral
import DashboardCheck.Text.Split

/-!
Tables that are kept as lines of text: rows with a blank between them, and in a row hexadecimal
numbers with a hyphen between them.
-/
namespace DashboardCheck.Text

/-- The number that hexadecimal digits write; other characters count as zeros. -/
def hexNumber (cs : List Char) : Nat :=
  cs.foldl (fun n c => n * 16 + (Number.hexValue? c).getD 0) 0

def readRows (lines : List String) : List (List Nat) :=
  lines.flatMap fun line => (pieces ' ' line.toList).map fun row => (pieces '-' row).map hexNumber

/-- The rows of a table of ranges, each with its third number, or zero if it has two. -/
def readRanges (lines : List String) : List (Nat × Nat × Nat) :=
  (readRows lines).filterMap fun
    | [first, last] => some (first, last, 0)
    | [first, last, value] => some (first, last, value)
    | _ => none

def rangeValue? (ranges : List (Nat × Nat × Nat)) (n : Nat) : Option Nat :=
  (ranges.find? fun (first, last, _) => first ≤ n && n ≤ last).map fun (_, _, value) => value

end DashboardCheck.Text
