import DashboardCheck.Text.Utf8

/-!
Tagged parts of binary data: a byte that says what a part is, the length of its content, and the
content. A length is written in the one shortest way and stays below 65535. The main statement says
that what follows a part is shorter than the data, so that a row of parts comes to an end.
-/
namespace DashboardCheck.Http.Der

open Text

/-- What a part is. -/
inductive Tag where
  | boolean | integer | bits | octets | name | sequence
  /-- A part that is known by its number, with parts inside. -/
  | numbered (n : Nat)
  deriving DecidableEq, Repr

def Tag.byte : Tag → UInt8
  | boolean => 0x01
  | integer => 0x02
  | bits => 0x03
  | octets => 0x04
  | name => 0x06
  | sequence => 0x30
  | numbered n => 0xA0 + UInt8.ofNat n

/-- The number that bytes write, the most significant first. -/
def number (bytes : Bytes) : Nat := bytes.foldl (fun n b => n * 256 + b.toNat) 0

/-- The least number that needs so many bytes behind the one that counts them. -/
def leastLong (count : Nat) : Nat := if count = 1 then 0x80 else Nat.pow 256 (count - 1)

/-- A length and what follows it. A length from 128 on is written behind a byte that counts its
bytes, of which there are at most four. -/
def length? : Bytes → Option (Nat × Bytes)
  | [] => none
  | first :: rest =>
    if first < 0x80 then some (first.toNat, rest)
    else
      let count := first.toNat - 0x80
      let value := number (rest.take count)
      if count = 0 || 4 < count || rest.length < count || value < leastLong count then none
      else some (value, rest.drop count)

def lengthLimit : Nat := 65535

/-- A part: the byte of its tag, its content, and what follows it. Tags of several bytes are not
known. -/
def part? : Bytes → Option (UInt8 × Bytes × Bytes)
  | [] => none
  | tag :: rest =>
    match length? rest with
    | none => none
    | some (size, rest) =>
      if tag % 32 = 31 || lengthLimit ≤ size || rest.length < size then none
      else some (tag, rest.take size, rest.drop size)

/-- The content of a part of this kind, and what follows it. -/
def expect? (tag : Tag) (bytes : Bytes) : Option (Bytes × Bytes) :=
  match part? bytes with
  | some (found, content, rest) => if found = tag.byte then some (content, rest) else none
  | none => none

/-- The content of a part of this kind that nothing follows. -/
def only? (tag : Tag) (bytes : Bytes) : Option Bytes :=
  match expect? tag bytes with
  | some (content, []) => some content
  | _ => none

theorem length?_rest {bytes rest : Bytes} {size : Nat} (h : length? bytes = some (size, rest)) :
    rest.length < bytes.length := by
  cases bytes with
  | nil => simp [length?] at h
  | cons first tail =>
    simp only [length?] at h
    split at h
    · simp only [Option.some.injEq, Prod.mk.injEq] at h
      simp [← h.2]
    · split at h
      · simp at h
      · simp only [Option.some.injEq, Prod.mk.injEq] at h
        simp only [← h.2, List.length_drop, List.length_cons]
        omega

theorem part?_rest {bytes content rest : Bytes} {tag : UInt8}
    (h : part? bytes = some (tag, content, rest)) : rest.length < bytes.length := by
  cases bytes with
  | nil => simp [part?] at h
  | cons first tail =>
    simp only [part?] at h
    split at h
    · simp at h
    · next size behind hlength =>
      have hbehind := length?_rest hlength
      split at h
      · simp at h
      · simp only [Option.some.injEq, Prod.mk.injEq] at h
        simp only [← h.2.2, List.length_drop, List.length_cons]
        omega

theorem expect?_rest {tag : Tag} {bytes content rest : Bytes}
    (h : expect? tag bytes = some (content, rest)) : rest.length < bytes.length := by
  simp only [expect?] at h
  split at h
  · next found inner behind hpart =>
    split at h
    · simp only [Option.some.injEq, Prod.mk.injEq] at h
      rw [← h.2]
      exact part?_rest hpart
    · simp at h
  · simp at h

/-- The contents of a row of parts of this kind, to the end of the data. -/
def row? (tag : Tag) (bytes : Bytes) : Option (List Bytes) :=
  if bytes.isEmpty then some []
  else match _found : expect? tag bytes with
    | none => none
    | some (content, rest) => (row? tag rest).map (content :: ·)
termination_by bytes.length
decreasing_by exact expect?_rest _found

def behind? : List Tag → Bytes → Option Bytes
  | [], bytes => some bytes
  | tag :: tags, bytes => (expect? tag bytes).bind fun (_, rest) => behind? tags rest

end DashboardCheck.Http.Der
