/-!
A document as far as it can be read: a tree of located values in which trouble stays where it was
met. Reading a part and passing over a part may disagree about trouble, so both verdicts are kept.
Offsets count bytes from the start of the text.
-/
namespace DashboardCheck.Document

/-- What can be wrong with the text of a document. -/
inductive FaultKind where
  | endInList | endInTable | endInString | endInValue
  | noColon | noListEnd | noTableEnd | noLiteral | noValue
  | badEscape | badNumber | outOfRange | controlCharacter | keyNotString
  | loneSurrogate | commaBeforeEnd | trailing | unfinishedPair | tooDeep
  /-- More items than asked for, of so many. -/
  | tooManyItems (size : Nat)
  deriving DecidableEq, Repr

def FaultKind.message : FaultKind → String
  | endInList => "EOF while parsing a list"
  | endInTable => "EOF while parsing an object"
  | endInString => "EOF while parsing a string"
  | endInValue => "EOF while parsing a value"
  | noColon => "expected `:`"
  | noListEnd => "expected `,` or `]`"
  | noTableEnd => "expected `,` or `\x7d`"
  | noLiteral => "expected ident"
  | noValue => "expected value"
  | badEscape => "invalid escape"
  | badNumber => "invalid number"
  | outOfRange => "number out of range"
  | controlCharacter => "control character (\\u0000-\\u001F) found while parsing a string"
  | keyNotString => "key must be a string"
  | loneSurrogate => "lone leading surrogate in hex escape"
  | commaBeforeEnd => "trailing comma"
  | trailing => "trailing characters"
  | unfinishedPair => "unexpected end of hex escape"
  | tooDeep => "recursion limit exceeded"
  | tooManyItems size => s!"invalid length {size}, expected fewer elements in array"

/-- Trouble and where it is reported. -/
structure Fault where
  kind : FaultKind
  offset : Nat
  deriving DecidableEq, Repr

/-- Trouble that ends a document, as it looks to one who reads and to one who passes over. -/
structure Break where
  reading : Fault
  skipping : Fault
  deriving DecidableEq, Repr

/-- The same trouble for reading and passing over. -/
def Break.both (kind : FaultKind) (offset : Nat) : Break := ⟨⟨kind, offset⟩, ⟨kind, offset⟩⟩

/-- What happens to one who wants a list or table to end here. -/
structure Closing where
  /-- None if it does end here. -/
  fault : Option Fault
  /-- Where the attempt leaves the reader. -/
  offset : Nat
  deriving DecidableEq, Repr

def Closing.smooth : Closing := ⟨none, 0⟩

/-- A value without parts. -/
inductive Scalar where
  | null
  | bool (b : Bool)
  | integer (n : Int)
  | float (x : Float)
  | string (s : String)
  deriving Repr

/-- The name of a table entry. -/
structure Key where
  /-- The name, or why it cannot be read though it can be passed over. -/
  name : Except Fault String
  closing : Closing

/-- A located value. `mark` is where a complaint about it is reported. -/
inductive Node where
  /-- Nothing can be made of the text from here on. -/
  | broken (trouble : Break)
  /-- Can be passed over but not read. -/
  | unreadable (fault : Fault)
  | scalar (mark : Nat) (value : Scalar)
  | list (mark : Nat) (opened : Closing) (items : List (Node × Closing)) (stop : Option Break)
  | table (mark : Nat) (opened : Closing) (members : List (Key × Node × Closing))
      (stop : Option Break)

def Node.plain (value : Scalar) : Node := .scalar 0 value

mutual

def Node.skip : Node → Option Fault
  | .broken trouble => some trouble.skipping
  | .unreadable _ => none
  | .scalar _ _ => none
  | .list _ _ items stop => (skipItems items).or (stop.map Break.skipping)
  | .table _ _ members stop => (skipMembers members).or (stop.map Break.skipping)

/-- The first trouble met when passing over the items of a list. -/
def skipItems : List (Node × Closing) → Option Fault
  | [] => none
  | (node, _) :: rest => node.skip.or (skipItems rest)

/-- The first trouble met when passing over the entries of a table. -/
def skipMembers : List (Key × Node × Closing) → Option Fault
  | [] => none
  | (_, node, _) :: rest => node.skip.or (skipMembers rest)

end

/-- The line, from 1, and the bytes since its start, of an offset. -/
def position (text : String) (offset : Nat) : Nat × Nat :=
  let rec go : List Char → Nat → Nat → Nat → Nat × Nat
    | [], _, line, column => (line, column)
    | c :: rest, left, line, column =>
      if left < c.utf8Size then (line, column + left)
      else if c = '\n' then go rest (left - 1) (line + 1) 0
      else go rest (left - c.utf8Size) line (column + c.utf8Size)
  go text.toList offset 1 0

end DashboardCheck.Document
