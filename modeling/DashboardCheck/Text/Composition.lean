import DashboardCheck.Text.CompositionTable
import DashboardCheck.Text.Rows

/-!
Composition by the Unicode standard. The same text can be written with a letter and its marks
apart or as one character; composition brings it into one form: characters are taken apart, marks
are put in order, and what makes up one character becomes one.
-/
namespace DashboardCheck.Text

/-- The pairs that make up one character, with it. -/
def compositions : List (Nat × Nat × Nat) :=
  (readRows compositionRows).filterMap fun
    | [first, second, whole] => some (first, second, whole)
    | _ => none

def combiningRanges : List (Nat × Nat × Nat) := readRanges combiningRows

/-- The class of a mark; zero for a character that begins anew. -/
def combiningClass (c : Char) : Nat :=
  if c.toNat < 0x300 then 0 else (rangeValue? combiningRanges c.toNat).getD 0

/-- The parts of a character. The number bounds how often one is taken apart. -/
def decompose : Nat → Char → List Char
  | 0, c => [c]
  | depth + 1, c =>
    match compositions.find? fun (_, _, whole) => whole == c.toNat with
    | some (first, second, _) => decompose depth (Char.ofNat first) ++ [Char.ofNat second]
    | none => [c]

def maxParts : Nat := 4

/-- Puts a character behind a reversed text, before the marks of higher classes at its end. -/
def placeMark (c : Char) : List Char → List Char
  | [] => [c]
  | d :: rest =>
    if 0 < combiningClass c && combiningClass c < combiningClass d then d :: placeMark c rest
    else c :: d :: rest

def orderMarks (cs : List Char) : List Char :=
  (cs.foldl (fun earlier c => placeMark c earlier) []).reverse

/-- A Korean syllable of its first two letters, or of a syllable of two letters and a third. -/
def syllable? (first second : Nat) : Option Nat :=
  if 0x1100 ≤ first && first < 0x1113 && 0x1161 ≤ second && second < 0x1176 then
    some (0xAC00 + ((first - 0x1100) * 21 + (second - 0x1161)) * 28)
  else if 0xAC00 ≤ first && first < 0xD7A4 && (first - 0xAC00) % 28 = 0 &&
      0x11A7 < second && second < 0x11C3 then
    some (first + (second - 0x11A7))
  else none

def whole? (first second : Char) : Option Char :=
  ((syllable? first.toNat second.toNat).or
    ((compositions.find? fun (a, b, _) => a == first.toNat && b == second.toNat).map
      fun (_, _, whole) => whole)).map Char.ofNat

/-- Composition behind the character `base` and the marks that it did not take in, reversed. A mark
is taken in unless one of its class or a higher one stands between. -/
def joinMarks (base : Char) (marks : List Char) : List Char → List Char
  | [] => base :: marks.reverse
  | c :: rest =>
    let isBlocked := marks.head?.any fun d => combiningClass c ≤ combiningClass d
    match if isBlocked then none else whole? base c with
    | some whole => joinMarks whole marks rest
    | none =>
      if combiningClass c = 0 then base :: marks.reverse ++ joinMarks c [] rest
      else joinMarks base (c :: marks) rest

/-- The text with everything composed that can be. Marks before the first character stay. -/
def compose (cs : List Char) : List Char :=
  let ordered := orderMarks (cs.flatMap (decompose maxParts))
  let isMark (c : Char) : Bool := 0 < combiningClass c
  ordered.takeWhile isMark ++ match ordered.dropWhile isMark with
    | [] => []
    | base :: rest => joinMarks base [] rest

end DashboardCheck.Text
