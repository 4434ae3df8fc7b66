import DashboardCheck.Document.Basic
import DashboardCheck.Number.Numeral

/-!
The tokens of a JSON text. Scanning goes on after a token that can be passed over but not read (a
number out of range, half of a surrogate pair) and ends at one that is neither.
-/
namespace DashboardCheck.Json

open Document Number

/-- The marks that give a text its structure. -/
inductive Sign where
  | openTable | closeTable | openList | closeList | colon | comma
  deriving DecidableEq, Repr

inductive Lexeme where
  | sign (s : Sign)
  | scalar (value : Scalar)
  | unreadable (fault : Fault)
  | broken (trouble : Break)

/-- A token from `start` to just before `stop`. -/
structure Token where
  start : Nat
  stop : Nat
  /-- Whether it begins with a quotation mark. -/
  isText : Bool
  lexeme : Lexeme

def byteLength (cs : List Char) : Nat :=
  cs.foldl (fun n c => n + c.utf8Size) 0

def isSpace (c : Char) : Bool :=
  c == ' ' || c == '\n' || c == '\t' || c == '\r'

/-- The number written by four hexadecimal digits. -/
def hex4? (a b c d : Char) : Option Nat := do
  let a ← hexValue? a
  let b ← hexValue? b
  let c ← hexValue? c
  let d ← hexValue? d
  return ((a * 16 + b) * 16 + c) * 16 + d

def shortEscape? : Char → Option Char
  | '"' => some '"'
  | '\\' => some '\\'
  | '/' => some '/'
  | 'b' => some '\x08'
  | 'f' => some '\x0c'
  | 'n' => some '\n'
  | 'r' => some '\r'
  | 't' => some '\t'
  | _ => none

/-- A part of a string between its quotation marks. -/
inductive Piece where
  | plain (c : Char)
  | escape (c : Char)
  /-- A UTF-16 unit in hexadecimal. -/
  | unit (n : Nat)

/-- How a string ends. -/
inductive Ending where
  | closed (rest : List Char) (stop : Nat)
  | broken (trouble : Break)

/-- The pieces of a string, each with the offset behind it, from just behind the opening mark. -/
def scanPieces : List Char → Nat → List (Piece × Nat) × Ending
  | [], pos => ([], .broken (.both .endInString pos))
  | '"' :: rest, pos => ([], .closed rest (pos + 1))
  | '\\' :: 'u' :: a :: b :: c :: d :: rest, pos =>
    match hex4? a b c d with
    | some n =>
      let (pieces, ending) := scanPieces rest (pos + 6)
      ((.unit n, pos + 6) :: pieces, ending)
    | none => ([], .broken (.both .badEscape (pos + 6)))
  | '\\' :: 'u' :: rest, pos =>
    if 4 ≤ byteLength rest then ([], .broken (.both .badEscape (pos + 6)))
    else ([], .broken (.both .endInString (pos + 2 + byteLength rest)))
  | ['\\'], pos => ([], .broken (.both .endInString (pos + 1)))
  | '\\' :: c :: rest, pos =>
    match shortEscape? c with
    | some e =>
      let (pieces, ending) := scanPieces rest (pos + 2)
      ((.escape e, pos + 2) :: pieces, ending)
    | none => ([], .broken (.both .badEscape (pos + 2)))
  | c :: rest, pos =>
    if c.toNat < 0x20 then
      ([], .broken ⟨⟨.controlCharacter, pos + 1⟩, ⟨.controlCharacter, pos⟩⟩)
    else
      let (pieces, ending) := scanPieces rest (pos + c.utf8Size)
      ((.plain c, pos + c.utf8Size) :: pieces, ending)

/-- The trouble of a first surrogate, written up to `pos`, that no second surrogate follows. -/
def unpaired (pos : Nat) : List (Piece × Nat) → Ending → Fault
  | (.plain _, _) :: _, _ => ⟨.unfinishedPair, pos + 1⟩
  | (.escape _, _) :: _, _ => ⟨.unfinishedPair, pos + 2⟩
  | (.unit _, after) :: _, _ => ⟨.loneSurrogate, after⟩
  | [], .closed _ _ => ⟨.unfinishedPair, pos + 1⟩
  | [], .broken trouble =>
    -- A string that ends, or holds a bare control character, right behind the surrogate.
    match trouble.reading.kind with
    | .controlCharacter => ⟨.unfinishedPair, pos + 1⟩
    | .badEscape =>
      if trouble.reading.offset == pos + 2 then ⟨.unfinishedPair, pos + 2⟩ else trouble.reading
    | _ => trouble.reading

/-- The characters that pieces stand for; two units may make one. -/
def joinPieces : List (Piece × Nat) → Ending → Except Fault (List Char)
  | [], .closed _ _ => .ok []
  | [], .broken trouble => .error trouble.reading
  | (.plain c, _) :: rest, ending => (joinPieces rest ending).map (c :: ·)
  | (.escape c, _) :: rest, ending => (joinPieces rest ending).map (c :: ·)
  | (.unit n, pos) :: rest, ending =>
    if 0xDC00 ≤ n && n ≤ 0xDFFF then .error ⟨.loneSurrogate, pos⟩
    else if 0xD800 ≤ n && n ≤ 0xDBFF then
      match rest with
      | (.unit m, after) :: more =>
        if 0xDC00 ≤ m && m ≤ 0xDFFF then
          (joinPieces more ending).map
            (Char.ofNat ((n - 0xD800) * 0x400 + (m - 0xDC00) + 0x10000) :: ·)
        else .error ⟨.loneSurrogate, after⟩
      | _ => .error (unpaired pos rest ending)
    else (joinPieces rest ending).map (Char.ofNat n :: ·)

/-- A string token that starts at `pos`, from just behind its opening mark, and what follows. -/
def scanString (cs : List Char) (pos : Nat) : Token × Option (List Char) :=
  let (pieces, ending) := scanPieces cs (pos + 1)
  let content := joinPieces pieces ending
  match ending with
  | .closed rest stop =>
    (⟨pos, stop, true, match content with
      | .ok chars => .scalar (.string (String.ofList chars))
      | .error fault => .unreadable fault⟩, some rest)
  | .broken trouble =>
    (⟨pos, pos, true, .broken ⟨match content with
      | .ok _ => trouble.reading
      | .error fault => fault, trouble.skipping⟩⟩, none)

/-- A decimal number in the making: `significand · 10 ^ exponent`. -/
structure Magnitude where
  significand : Nat
  exponent : Int

/-- Adds digits before the point; those that would not fit 64 bits only count. -/
def addWhole : List Char → Magnitude → Bool → Magnitude × Bool
  | [], m, full => (m, full)
  | c :: rest, m, full =>
    let next := m.significand * 10 + digitValue c
    if full || max64 < next then addWhole rest ⟨m.significand, m.exponent + 1⟩ true
    else addWhole rest ⟨next, m.exponent⟩ false

/-- Adds digits behind the point as long as they fit 64 bits. -/
def addPlaces : List Char → Magnitude → Magnitude
  | [], m => m
  | c :: rest, m =>
    let next := m.significand * 10 + digitValue c
    if max64 < next then m else addPlaces rest ⟨next, m.exponent - 1⟩

def powerOfTen (n : Nat) : Float :=
  Float.ofScientific 1 false n

/-- The binary number for a magnitude; none if it is too large. Powers of ten beyond 308 are
divided out in steps. -/
def scaled? : Nat → Float → Int → Option Float
  | 0, x, _ => some x
  | fuel + 1, x, exponent =>
    if exponent.natAbs ≤ 308 then
      if 0 ≤ exponent then
        let y := x * powerOfTen exponent.natAbs
        if y.isInf then none else some y
      else some (x / powerOfTen exponent.natAbs)
    else if x == 0.0 then some x
    else if 0 ≤ exponent then none
    else scaled? fuel (x / powerOfTen 308) (exponent + 308)

/-- The value of a number with a point or an exponent. -/
def Magnitude.toFloat? (m : Magnitude) (negative : Bool) : Option Float :=
  (scaled? (m.exponent.natAbs / 308 + 2) (UInt64.ofNat m.significand).toFloat m.exponent).map
    fun x => if negative then -x else x

/-- The value of a number without point and exponent: an integer if 64 bits hold it. -/
def wholeNumber (m : Magnitude) (negative : Bool) : Option Scalar :=
  if m.exponent ≠ 0 then (m.toFloat? negative).map .float
  else if negative then
    if m.significand = 0 || Nat.pow 2 63 < m.significand then (m.toFloat? true).map .float
    else some (.integer (-(m.significand : Int)))
  else some (.integer m.significand)

def maxExponent : Nat := 2147483647

/-- The digits of an exponent: its value, and how many digits were needed to pass the largest. -/
def readExponent : List Char → Nat → Nat → Except Nat Nat
  | [], value, _ => .ok value
  | c :: rest, value, used =>
    let next := value * 10 + digitValue c
    if maxExponent < next then .error (used + 1) else readExponent rest next (used + 1)

/-- Keeps an exponent within the range of 32 bits. -/
def clampExponent (e : Int) : Int :=
  max (-(maxExponent : Int) - 1) (min e maxExponent)

/-- A number token that starts at `start`. `cs` is the text behind the sign, at `pos`. -/
def scanNumber (negative : Bool) (start : Nat) (cs : List Char) (pos : Nat) :
    Token × Option (List Char) :=
  let stopAt (reading skipping : Fault) : Token × Option (List Char) :=
    (⟨start, start, false, .broken ⟨reading, skipping⟩⟩, none)
  let whole := cs.takeWhile isDigit
  let rest := cs.dropWhile isDigit
  let pos₁ := pos + whole.length
  match whole with
  | [] =>
    if cs.isEmpty then stopAt ⟨.endInValue, pos⟩ ⟨.badNumber, pos⟩
    else stopAt ⟨.badNumber, pos + 1⟩ ⟨.badNumber, pos + 1⟩
  | '0' :: _ :: _ => stopAt ⟨.badNumber, pos + 2⟩ ⟨.badNumber, pos + 2⟩
  | _ =>
    let (m, _) := addWhole whole ⟨0, 0⟩ false
    let pointed := rest.head? == some '.'
    let fraction := if pointed then rest.tail.takeWhile isDigit else []
    let rest₂ := if pointed then rest.tail.dropWhile isDigit else rest
    let pos₂ := if pointed then pos₁ + 1 + fraction.length else pos₁
    if pointed && fraction.isEmpty then
      if rest₂.isEmpty then stopAt ⟨.endInValue, pos₂⟩ ⟨.badNumber, pos₂⟩
      else stopAt ⟨.badNumber, pos₂ + 1⟩ ⟨.badNumber, pos₂ + 1⟩
    else
      let m₂ := addPlaces fraction m
      let finish (value : Option Scalar) (at_ stop : Nat) (rest : List Char) :=
        ((⟨start, stop, false, match value with
          | some value => .scalar value
          | none => .unreadable ⟨.outOfRange, at_⟩⟩ : Token), some rest)
      match rest₂ with
      | 'e' :: more | 'E' :: more =>
        let (down, signed, digits) := match more with
          | '+' :: digits => (false, 1, digits)
          | '-' :: digits => (true, 1, digits)
          | _ => (false, 0, more)
        let shown := digits.takeWhile isDigit
        let after := digits.dropWhile isDigit
        let pos₃ := pos₂ + 1 + signed
        let stop := pos₃ + shown.length
        if shown.isEmpty then
          if digits.isEmpty then stopAt ⟨.endInValue, pos₃⟩ ⟨.badNumber, pos₃⟩
          else stopAt ⟨.badNumber, pos₃ + 1⟩ ⟨.badNumber, pos₃ + 1⟩
        else match readExponent shown 0 0 with
          | .ok e =>
            let exponent := clampExponent (if down then m₂.exponent - e else m₂.exponent + e)
            finish (((⟨m₂.significand, exponent⟩ : Magnitude).toFloat? negative).map .float) stop
              stop after
          | .error used =>
            if m₂.significand ≠ 0 && !down then finish none (pos₃ + used) stop after
            else finish (some (.float (if negative then -0.0 else 0.0))) stop stop after
      | _ =>
        let value := if pointed then (m₂.toFloat? negative).map .float else wholeNumber m₂ negative
        finish value pos₂ pos₂ rest₂

/-- A word that must follow a first letter, at `pos`. -/
def scanWord (start : Nat) (value : Scalar) :
    List Char → List Char → Nat → Token × Option (List Char)
  | [], rest, pos => (⟨start, pos, false, .scalar value⟩, some rest)
  | _ :: _, [], pos => (⟨start, start, false, .broken (.both .endInValue pos)⟩, none)
  | w :: word, c :: rest, pos =>
    if w = c then scanWord start value word rest (pos + 1)
    else (⟨start, start, false, .broken (.both .noLiteral (pos + 1))⟩, none)

/-- The token that starts with `c` at `pos`, and the text behind it unless nothing can be made of
that. -/
def scanToken (c : Char) (rest : List Char) (pos : Nat) : Token × Option (List Char) :=
  let sign (s : Sign) : Token × Option (List Char) := (⟨pos, pos + 1, false, .sign s⟩, some rest)
  match c with
  | '\x7b' => sign .openTable
  | '\x7d' => sign .closeTable
  | '[' => sign .openList
  | ']' => sign .closeList
  | ':' => sign .colon
  | ',' => sign .comma
  | '"' => scanString rest pos
  | 'n' => scanWord pos .null ['u', 'l', 'l'] rest (pos + 1)
  | 't' => scanWord pos (.bool true) ['r', 'u', 'e'] rest (pos + 1)
  | 'f' => scanWord pos (.bool false) ['a', 'l', 's', 'e'] rest (pos + 1)
  | '-' => scanNumber true pos rest (pos + 1)
  | _ =>
    if isDigit c then scanNumber false pos (c :: rest) pos
    else (⟨pos, pos, false, .broken (.both .noValue (pos + 1))⟩, none)

/-- The tokens of the text at `pos`. Every token takes a character at least, so the length of the
text bounds their number. -/
def scanFrom : Nat → List Char → Nat → List Token
  | 0, _, _ => []
  | _, [], _ => []
  | fuel + 1, c :: rest, pos =>
    if isSpace c then scanFrom fuel rest (pos + 1)
    else match scanToken c rest pos with
      | (token, none) => [token]
      | (token, some rest) => token :: scanFrom fuel rest token.stop

def tokens (text : String) : List Token :=
  scanFrom text.toList.length text.toList 0

end DashboardCheck.Json
