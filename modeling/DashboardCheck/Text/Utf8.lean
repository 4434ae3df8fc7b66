/-!
Bytes and the text they write in UTF-8. Strict reading fails on bytes that write no text; lenient
reading puts U+FFFD in place of each longest run of bytes that starts a character but does not
finish it, and in place of every other byte that fits nowhere.
-/
namespace DashboardCheck.Text

/-- The content of a file, an argument or an output. -/
abbrev Bytes := List UInt8

/-- What the start of some bytes is. -/
inductive Lead where
  /-- A character and what follows it. -/
  | char (c : Char) (rest : Bytes)
  /-- So many bytes that start no character, or one that is not finished. -/
  | malformed (count : Nat)
  deriving Repr

/-- The range of the second byte of a longer character, by the first. -/
def secondRange (first : Nat) : Nat × Nat :=
  if first = 0xE0 then (0xA0, 0xBF)
  else if first = 0xED then (0x80, 0x9F)
  else if first = 0xF0 then (0x90, 0xBF)
  else if first = 0xF4 then (0x80, 0x8F)
  else (0x80, 0xBF)

def continuation? (low high : Nat) : Bytes → Option (Nat × Bytes)
  | b :: rest => if low ≤ b.toNat && b.toNat ≤ high then some (b.toNat % 64, rest) else none
  | [] => none

def lead (b : UInt8) (rest : Bytes) : Lead :=
  let n := b.toNat
  let (low, high) := secondRange n
  if n < 0x80 then .char (Char.ofNat n) rest
  else if n < 0xC2 then .malformed 1
  else if n < 0xE0 then
    match continuation? 0x80 0xBF rest with
    | some (x, rest) => .char (Char.ofNat (n % 32 * 64 + x)) rest
    | none => .malformed 1
  else if n < 0xF0 then
    match continuation? low high rest with
    | none => .malformed 1
    | some (x, rest) =>
      match continuation? 0x80 0xBF rest with
      | none => .malformed 2
      | some (y, rest) => .char (Char.ofNat ((n % 16 * 64 + x) * 64 + y)) rest
  else if n < 0xF5 then
    match continuation? low high rest with
    | none => .malformed 1
    | some (x, rest) =>
      match continuation? 0x80 0xBF rest with
      | none => .malformed 2
      | some (y, rest) =>
        match continuation? 0x80 0xBF rest with
        | none => .malformed 3
        | some (z, rest) => .char (Char.ofNat (((n % 8 * 64 + x) * 64 + y) * 64 + z)) rest
  else .malformed 1

/-- Strict reading. The number bounds the characters. -/
def decodeFrom? : Nat → Bytes → Option (List Char)
  | _, [] => some []
  | 0, _ => none
  | fuel + 1, b :: rest =>
    match lead b rest with
    | .char c rest => (decodeFrom? fuel rest).map (c :: ·)
    | .malformed _ => none

def decode? (bytes : Bytes) : Option String :=
  (decodeFrom? bytes.length bytes).map String.ofList

/-- Lenient reading. The number bounds the characters. -/
def decodeLossyFrom : Nat → Bytes → List Char
  | 0, _ => []
  | _, [] => []
  | fuel + 1, b :: rest =>
    match lead b rest with
    | .char c rest => c :: decodeLossyFrom fuel rest
    | .malformed count => '\uFFFD' :: decodeLossyFrom fuel (rest.drop (count - 1))

/-- The text that bytes write, with marks for what they do not. -/
def decodeLossy (bytes : Bytes) : String :=
  String.ofList (decodeLossyFrom bytes.length bytes)

def encode (s : String) : Bytes :=
  s.toUTF8.toList

end DashboardCheck.Text
