import DashboardCheck.Number.Numeral
import DashboardCheck.Text.Split

/-!
The words of TOML 1.1: blanks and comments, keys, strings, numbers and times. A reader takes the
start of a text and gives back the rest; it fails without saying why.
-/
namespace DashboardCheck.Toml

open Number

abbrev Reader (α : Type) := List Char → Option (α × List Char)

/-- Characters that must not stand in a text as they are: controls other than the tab. -/
def isControl (c : Char) : Bool :=
  (c.toNat < 0x20 && c != '\t') || c.toNat == 0x7F

def isSpace (c : Char) : Bool := c == ' ' || c == '\t'

def skipSpace (cs : List Char) : List Char := cs.dropWhile isSpace

def newline? : List Char → Option (List Char)
  | '\n' :: rest => some rest
  | '\r' :: '\n' :: rest => some rest
  | _ => none

/-- The text behind a comment, which may be empty; a control character must not stand in one. -/
def skipComment? : List Char → Option (List Char)
  | '#' :: rest =>
    let behind := rest.dropWhile fun c => !isControl c
    match behind with
    | [] => some []
    | '\n' :: _ => some behind
    | '\r' :: '\n' :: _ => some behind
    | _ => none
  | cs => some cs

/-- The text behind blanks, comments and ends of lines. The number bounds the lines. -/
def skipLines? : Nat → List Char → Option (List Char)
  | 0, cs => some cs
  | fuel + 1, cs =>
    match skipComment? (skipSpace cs) with
    | none => none
    | some rest =>
      match newline? rest with
      | some behind => skipLines? fuel behind
      | none => some rest

def hex? : Nat → Nat → Reader Nat
  | 0, value, cs => some (value, cs)
  | _ + 1, _, [] => none
  | count + 1, value, c :: rest =>
    match hexValue? c with
    | some digit => hex? count (value * 16 + digit) rest
    | none => none

def charOf? (n : Nat) : Option Char :=
  if n.isValidChar then some (Char.ofNat n) else none

def escape? : Reader Char
  | 'b' :: rest => some ('\x08', rest)
  | 't' :: rest => some ('\t', rest)
  | 'n' :: rest => some ('\n', rest)
  | 'f' :: rest => some ('\x0c', rest)
  | 'r' :: rest => some ('\r', rest)
  | 'e' :: rest => some ('\x1b', rest)
  | '"' :: rest => some ('"', rest)
  | '\\' :: rest => some ('\\', rest)
  | 'x' :: rest => (hex? 2 0 rest).bind fun (n, rest) => (charOf? n).map (·, rest)
  | 'u' :: rest => (hex? 4 0 rest).bind fun (n, rest) => (charOf? n).map (·, rest)
  | 'U' :: rest => (hex? 8 0 rest).bind fun (n, rest) => (charOf? n).map (·, rest)
  | _ => none

/-- A string between double quotes on one line, from behind the first. -/
def basic? : Nat → Reader (List Char)
  | 0, _ => none
  | _, [] => none
  | fuel + 1, c :: rest =>
    if c = '"' then some ([], rest)
    else if c = '\\' then do
      let (e, rest) ← escape? rest
      let (cs, rest) ← basic? fuel rest
      return (e :: cs, rest)
    else if isControl c then none
    else do
      let (cs, rest) ← basic? fuel rest
      return (c :: cs, rest)

/-- A string between single quotes on one line, from behind the first. -/
def literal? : Reader (List Char)
  | [] => none
  | c :: rest =>
    if c = '\'' then some ([], rest)
    else if isControl c then none
    else (literal? rest).map fun (cs, rest) => (c :: cs, rest)

/-- Up to two quotes may stand before the three that close a string. From behind three quotes: how
many of them belong to the string, and what follows it. -/
def closeLong (quote : Char) (rest : List Char) : List Char × List Char :=
  match rest with
  | a :: b :: more =>
    if a = quote && b = quote then ([quote, quote], more)
    else if a = quote then ([quote], b :: more)
    else ([], rest)
  | [a] => if a = quote then ([quote], []) else ([], rest)
  | [] => ([], [])

/-- Whether carriage returns stand only before line feeds. -/
def returnsPaired : List Char → Bool
  | [] => true
  | '\r' :: '\n' :: rest => returnsPaired rest
  | c :: rest => c != '\r' && returnsPaired rest

/-- The text behind the blanks and ends of lines that a backslash at the end of a line swallows. -/
def swallow? (cs : List Char) : Option (List Char) :=
  (newline? (skipSpace cs)).bind fun rest =>
    let isBlank (c : Char) := isSpace c || c == '\n' || c == '\r'
    if returnsPaired (rest.takeWhile isBlank) then some (rest.dropWhile isBlank) else none

/-- A string between three double quotes, from behind the first three. -/
def longBasic? : Nat → Reader (List Char)
  | 0, _ => none
  | _, [] => none
  | _, '"' :: '"' :: '"' :: rest => some (closeLong '"' rest)
  | fuel + 1, '\r' :: '\n' :: rest =>
    (longBasic? fuel rest).map fun (cs, rest) => ('\r' :: '\n' :: cs, rest)
  | fuel + 1, c :: rest =>
    if c = '\\' then
      match escape? rest with
      | some (e, behind) => (longBasic? fuel behind).map fun (cs, rest) => (e :: cs, rest)
      | none => (swallow? rest).bind (longBasic? fuel)
    else if isControl c && c != '\n' then none
    else (longBasic? fuel rest).map fun (cs, rest) => (c :: cs, rest)

/-- A string between three single quotes, from behind the first three. -/
def longLiteral? : Reader (List Char)
  | [] => none
  | '\'' :: '\'' :: '\'' :: rest => some (closeLong '\'' rest)
  | '\r' :: '\n' :: rest => (longLiteral? rest).map fun (cs, rest) => ('\r' :: '\n' :: cs, rest)
  | c :: rest =>
    if isControl c && c != '\n' then none
    else (longLiteral? rest).map fun (cs, rest) => (c :: cs, rest)

/-- A line that ends right behind the opening quotes does not belong to the string. -/
def dropNewline (cs : List Char) : List Char := (newline? cs).getD cs

def string? : Reader String := fun cs =>
  (match cs with
    | '"' :: '"' :: '"' :: rest => longBasic? (rest.length + 1) (dropNewline rest)
    | '"' :: rest => basic? (rest.length + 1) rest
    | '\'' :: '\'' :: '\'' :: rest => longLiteral? (dropNewline rest)
    | '\'' :: rest => literal? rest
    | _ => none).map fun (content, rest) => (String.ofList content, rest)

def isBare (c : Char) : Bool :=
  ('a' ≤ c && c ≤ 'z') || ('A' ≤ c && c ≤ 'Z') || isDigit c || c == '_' || c == '-'

def key? : Reader (String × Nat) := fun cs =>
  match cs with
  | '"' :: rest =>
    (basic? (rest.length + 1) rest).map fun (content, rest) =>
      ((String.ofList content, cs.length), rest)
  | '\'' :: rest =>
    (literal? rest).map fun (content, rest) => ((String.ofList content, cs.length), rest)
  | _ =>
    let name := cs.takeWhile isBare
    if name.isEmpty then none
    else some ((String.ofList name, cs.length), cs.dropWhile isBare)

/-- Keys with dots between them. The number bounds how many there are. -/
def keys? : Nat → Reader (List (String × Nat))
  | 0, _ => none
  | fuel + 1, cs => do
    let (key, rest) ← key? cs
    match skipSpace rest with
    | '.' :: more =>
      let (keys, rest) ← keys? fuel (skipSpace more)
      return (key :: keys, rest)
    | behind => return ([key], behind)

/-- Whether every underscore stands between two digits, or between the sign and a digit. Within a
piece between underscores only the ends are looked at. -/
def underscoresFit (isDigit : Char → Bool) (cs : List Char) : Bool :=
  let pieces := Text.pieces '_' cs
  (pieces.tail.isEmpty || pieces.head? != some []) &&
    pieces.tail.all (fun piece => piece.head?.any isDigit) &&
    pieces.dropLast.all fun piece => piece.length ≤ 1 || piece.getLast?.any isDigit

def dropUnderscores (cs : List Char) : List Char := cs.filter (· != '_')

def inBase (base : Nat) (cs : List Char) : Nat :=
  cs.foldl (fun n c => n * base + (hexValue? c).getD 0) 0

def signed (cs : List Char) : Bool × List Char :=
  match cs with
  | '-' :: rest => (true, rest)
  | '+' :: rest => (false, rest)
  | _ => (false, cs)

def isHexDigit (c : Char) : Bool := (hexValue? c).isSome

/-- What follows `0x` and the like. No digits at all are well formed and write no number. -/
def basedInteger? (base : Nat) (isDigit : Char → Bool) (cs : List Char) : Option (Option Nat) :=
  if !cs.all (fun c => isDigit c || c == '_') || !underscoresFit isDigit cs then none
  else if cs.isEmpty then some none
  else some (some (inBase base (dropUnderscores cs)))

/-- A whole number in decimal, with a sign or without. Behind the first underscore only the places
of underscores are looked at, so that what is well formed need not write a number. -/
def decimalInteger? (cs : List Char) : Option (Option Int) :=
  let (negative, body) := signed cs
  let fits := match body with
    | [] => false
    | ['0'] => true
    | '0' :: _ => false
    | _ => match body.dropWhile isDigit with
      | [] => true
      | c :: rest =>
        c == '_' && !rest.any (['.', 'e', 'E', ' '].contains ·) && underscoresFit isHexDigit cs
  if !fits then none
  else
    let digits := dropUnderscores body
    let n := Int.ofNat (inBase 10 digits)
    if digits.isEmpty || !digits.all isDigit then some none
    else some (some (if negative then -n else n))

/-- An integer, in decimal or in another base; the inner result is none for one that is well
formed and writes no number. -/
def integer? (cs : List Char) : Option (Option Int) :=
  match cs with
  | '0' :: 'x' :: rest => (basedInteger? 16 isHexDigit rest).map (·.map Int.ofNat)
  | '0' :: 'o' :: rest =>
    (basedInteger? 8 (fun c => '0' ≤ c && c ≤ '7') rest).map (·.map Int.ofNat)
  | '0' :: 'b' :: rest =>
    (basedInteger? 2 (fun c => c == '0' || c == '1') rest).map (·.map Int.ofNat)
  | _ => decimalInteger? cs

def decimalFloat (digits : Nat) (exponent : Int) : Float :=
  if 0 ≤ exponent then Float.ofScientific digits false exponent.toNat
  else Float.ofScientific digits true (-exponent).toNat

/-- Digits up to another character. There has to be at least one. -/
def digits? (cs : List Char) : Option (List Char × List Char) :=
  let digits := cs.takeWhile isDigit
  if digits.isEmpty then none else some (digits, cs.dropWhile isDigit)

def exponent? : List Char → Option Int
  | [] => some 0
  | c :: rest =>
    if c = 'e' || c = 'E' then
      let (negative, rest) := signed rest
      match digits? rest with
      | some (digits, []) =>
        some (if negative then -Int.ofNat (inBase 10 digits) else Int.ofNat (inBase 10 digits))
      | _ => none
    else none

/-- A number with a point or an exponent. -/
def float? (cs : List Char) : Option Float := do
  let (negative, body) := signed cs
  let flip (x : Float) := if negative then -x else x
  if body = ['i', 'n', 'f'] then return flip (1.0 / 0.0)
  if body = ['n', 'a', 'n'] then return flip (0.0 / 0.0)
  if !underscoresFit isDigit cs then none
  let (whole, rest) ← digits? (dropUnderscores body)
  if body.head? = some '0' && whole.length ≠ 1 then none
  let (places, rest) ← match rest with
    | '.' :: rest => digits? rest
    | 'e' :: _ => some ([], rest)
    | 'E' :: _ => some ([], rest)
    | _ => none
  let exponent ← exponent? rest
  -- Beyond these exponents every number is zero or too large.
  let exponent := max (-100000) (min 100000 exponent)
  return flip (decimalFloat (inBase 10 (whole ++ places)) (exponent - places.length))

def twoDigits? (limit : Nat) : Reader Nat
  | a :: b :: rest =>
    if isDigit a && isDigit b && inBase 10 [a, b] ≤ limit then some (inBase 10 [a, b], rest)
    else none
  | _ => none

def daysIn (year month : Nat) : Nat :=
  if month == 2 then
    if (year % 4 == 0 && year % 100 != 0) || year % 400 == 0 then 29 else 28
  else if month == 4 || month == 6 || month == 9 || month == 11 then 30 else 31

/-- A date; what follows it. -/
def date? : List Char → Option (List Char)
  | a :: b :: c :: d :: '-' :: rest => do
    if !([a, b, c, d].all isDigit) then none
    let (month, rest) ← twoDigits? 12 rest
    match rest with
    | '-' :: rest =>
      let (day, rest) ← twoDigits? 31 rest
      if month = 0 || day = 0 || daysIn (inBase 10 [a, b, c, d]) month < day then none
      return rest
    | _ => none
  | _ => none

/-- A time of day, with or without seconds; what follows it. -/
def time? (cs : List Char) : Option (List Char) := do
  let (_, rest) ← twoDigits? 23 cs
  match rest with
  | ':' :: rest =>
    let (_, rest) ← twoDigits? 59 rest
    match rest with
    | ':' :: rest =>
      let (_, rest) ← twoDigits? 60 rest
      match rest with
      | '.' :: rest =>
        if (rest.takeWhile isDigit).isEmpty then none else return rest.dropWhile isDigit
      | _ => return rest
    | _ => return rest
  | _ => none

/-- Whether a text is nothing, or the distance from universal time. -/
def isOffset (cs : List Char) : Bool :=
  match cs with
  | [] => true
  | ['Z'] => true
  | ['z'] => true
  | c :: rest =>
    (c == '+' || c == '-') &&
      match twoDigits? 23 rest with
      | some (_, ':' :: rest) => (twoDigits? 59 rest).any fun (_, rest) => rest.isEmpty
      | _ => false

def isMoment (cs : List Char) : Bool :=
  match date? cs with
  | some [] => true
  | some (t :: rest) =>
    (t == 'T' || t == 't' || t == ' ') && (time? rest).any isOffset
  | none => (time? cs).any List.isEmpty

/-- The characters of a value without quotes or brackets: all but those that end one. -/
def isWord (c : Char) : Bool :=
  let delimiters := ['=', ',', '[', ']', '\x7b', '\x7d', ' ', '\t', '#', '\r', '\n']
  !delimiters.contains c

/-- A value without quotes or brackets. A date may be set off from its time by a blank. -/
def word (cs : List Char) : List Char × List Char :=
  let first := cs.takeWhile isWord
  let rest := cs.dropWhile isWord
  match date? first, rest with
  | some [], ' ' :: c :: more =>
    if isDigit c then (first ++ ' ' :: (c :: more).takeWhile isWord, (c :: more).dropWhile isWord)
    else (first, rest)
  | _, _ => (first, rest)

end DashboardCheck.Toml
