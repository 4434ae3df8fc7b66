import DashboardCheck.Http.DomainTable
import DashboardCheck.Http.Punycode
import DashboardCheck.Text.Composition

/-!
Domain names in ASCII. A name is brought into the form in which names are compared: characters are
replaced or left out, and what is left is composed. Each of its labels, which stand between dots,
is then checked, and a label with characters beyond ASCII is written in Punycode.
-/
namespace DashboardCheck.Http.Domain

open Text

def mappedRanges : List (List Nat) := readRows mappedRangeRows

def mappedChars : List (List Nat) := readRows mappedCharRows ++ readRows mappedSequenceRows

def ignoredRanges : List (Nat × Nat × Nat) := readRanges ignoredRows

def disallowedRanges : List (Nat × Nat × Nat) := readRanges disallowedRows

def rangeImage? (n : Nat) : Option Nat :=
  mappedRanges.findSome? fun
    | [first, last, step, image] =>
      if first ≤ n && n ≤ last && (n - first) % step == 0 then some (image + (n - first)) else none
    | _ => none

def charImage? (n : Nat) : Option (List Nat) :=
  mappedChars.findSome? fun
    | c :: image => if c = n then some image else none
    | [] => none

/-- What becomes of a character of a name; none for one that no name holds. -/
def image? (c : Char) : Option (List Char) :=
  let n := c.toNat
  if n < 0x80 then some [c.toLower]
  else match rangeImage? n with
    | some image => some [Char.ofNat image]
    | none =>
      match charImage? n with
      | some image => some (image.map Char.ofNat)
      | none =>
        if (rangeValue? ignoredRanges n).isSome then some []
        else if (rangeValue? disallowedRanges n).isSome then none
        else some [c]

def normalize? (cs : List Char) : Option (List Char) :=
  (cs.mapM image?).map fun images => compose images.flatten

/-- How a character joins with its neighbours in a line of writing. -/
inductive Joining where
  | none | left | right | both
  /-- It is looked through. -/
  | transparent
  deriving DecidableEq, Repr

def joiningRanges : List (Nat × Nat × Nat) := readRanges joiningRows

def joining (c : Char) : Joining :=
  match rangeValue? joiningRanges c.toNat with
  | some 1 => .left
  | some 2 => .right
  | some 3 => .both
  | some 4 => .transparent
  | _ => .none

/-- Whether the first character that is not looked through joins on this side or on both. -/
def joinsFirst (side : Joining) (cs : List Char) : Bool :=
  match cs.dropWhile fun c => joining c == .transparent with
  | [] => false
  | c :: _ => joining c == side || joining c == .both

def viramaClass : Nat := 9

/-- Whether a joiner, or what keeps characters from joining, may stand behind the reversed text
`earlier` and before `rest`: behind a mark that kills a vowel, and what keeps characters from
joining also between two that would join. -/
def joinerFits (c : Char) (earlier rest : List Char) : Bool :=
  earlier.head?.any (fun d => combiningClass d == viramaClass) ||
    (c.toNat == 0x200C && joinsFirst .left earlier && joinsFirst .right rest)

/-- Whether every joiner behind the reversed text `earlier` may stand where it stands. -/
def joinersFit (earlier : List Char) : List Char → Bool
  | [] => true
  | c :: rest =>
    (!(c.toNat == 0x200C || c.toNat == 0x200D) || joinerFits c earlier rest) &&
      joinersFit (c :: earlier) rest

/-- The direction in which a character is written, by bidirectional class. -/
inductive Direction where
  | leftToRight | rightToLeft | arabicLetter | arabicNumber | europeanNumber
  | europeanSeparator | europeanTerminator | commonSeparator | neutral | boundary | mark
  deriving DecidableEq, Repr

namespace Direction

/-- The ranges of characters that are not written from left to right. -/
def ranges : List (Nat × Nat × Nat) := readRanges directionRows

def byNumber : List Direction :=
  [leftToRight, rightToLeft, arabicLetter, arabicNumber, europeanNumber, europeanSeparator,
   europeanTerminator, commonSeparator, neutral, boundary, mark]

def of (c : Char) : Direction :=
  byNumber.getD ((rangeValue? ranges c.toNat).getD 0) leftToRight

/-- Whether a name with such a character is held to the rules for directions. -/
def isFromRight (d : Direction) : Bool :=
  d == rightToLeft || d == arabicLetter || d == arabicNumber

def isCommon (d : Direction) : Bool :=
  [europeanNumber, europeanSeparator, europeanTerminator, commonSeparator, neutral, boundary,
   mark].contains d

end Direction

/-- Whether the directions of a label that begins from the left fit together. `behind` is what
follows the first, without marks at the end. -/
def leftLabelFits (behind : List Direction) : Bool :=
  behind.all (fun d => d == .leftToRight || d.isCommon) &&
    behind.getLast?.all fun d => d == .leftToRight || d == .europeanNumber

/-- Whether the directions of a label that begins from the right fit together: digits of both kinds
do not mix. -/
def rightLabelFits (behind : List Direction) : Bool :=
  behind.all (fun d => d.isFromRight || d.isCommon) &&
    !(behind.contains .europeanNumber && behind.contains .arabicNumber) &&
    behind.getLast?.all fun d => d.isFromRight || d == .europeanNumber

def directionsFit (label : List Char) : Bool :=
  match label.map Direction.of with
  | [] => true
  | first :: rest =>
    let behind := (rest.reverse.dropWhile (· == .mark)).reverse
    match first with
    | .leftToRight => leftLabelFits behind
    | .rightToLeft => rightLabelFits behind
    | .arabicLetter => rightLabelFits behind
    | _ => false

def markRanges : List (Nat × Nat × Nat) := readRanges markRows

/-- Whether a label may read like this, directions aside: it does not begin with a mark, and joiners
fit. -/
def isSound (label : List Char) : Bool :=
  !label.head?.any (fun c => (rangeValue? markRanges c.toNat).isSome) && joinersFit [] label

/-- A label as it reads and as it is written in ASCII. -/
structure Label where
  shown : List Char
  written : List Char
  deriving DecidableEq, Repr

def punycodeMark : List Char := ['x', 'n', '-', '-']

/-- The longest label that is written in Punycode, and the longest text in Punycode that is read. -/
def maxShown : Nat := 1000
@[inherit_doc maxShown] def maxWritten : Nat := 2000

def isBeyondAscii (c : Char) : Bool := 0x80 ≤ c.toNat

/-- The label that Punycode writes, if it writes one that needs it and does not look like Punycode
itself. -/
def fromPunycode? (cs : List Char) : Option (List Char) :=
  if maxWritten < cs.length then none
  else (Punycode.decode? cs).filter fun label =>
    label.any isBeyondAscii && !punycodeMark.isPrefixOf label && isSound label &&
      normalize? label == some label

/-- A label of a name in its normal form. One that claims to be in Punycode has to be. -/
def label? (cs : List Char) : Option Label :=
  match stripStart punycodeMark cs with
  | some code =>
    if cs.any isBeyondAscii then none else (fromPunycode? code).map fun label => ⟨label, cs⟩
  | none =>
    if !cs.any isBeyondAscii then some ⟨cs, cs⟩
    else if isSound cs && cs.length ≤ maxShown then some ⟨cs, punycodeMark ++ Punycode.encode cs⟩
    else none

/-- Whether the directions in the labels of a name fit together. Only names with characters that
are written from the right are looked at. -/
def allDirectionsFit (labels : List Label) : Bool :=
  let isFromRight (label : Label) := label.shown.any fun c => (Direction.of c).isFromRight
  !labels.any isFromRight || labels.all fun label => directionsFit label.shown

def ascii? (cs : List Char) : Option (List Char) := do
  let labels ← (pieces '.' (← normalize? cs)).mapM label?
  if allDirectionsFit labels then
    return (List.intersperse ['.'] (labels.map Label.written)).flatten
  else none

end DashboardCheck.Http.Domain
