import DashboardCheck.Http.Der

/-!
Certificates as files hold them: base64 text between a line that begins and a line that ends a
section. A certificate counts as readable if its parts are those of a certificate and it marks
nothing unknown as critical; names, dates and keys are not looked at.
-/
namespace DashboardCheck.Http.Certificate

open Text

def ascii (s : String) : Bytes := encode s

def marker : String := "-----BEGIN CERTIFICATE-----"

def digit? (b : UInt8) : Option Nat :=
  let n := b.toNat
  if 0x41 ≤ n && n ≤ 0x5A then some (n - 0x41)
  else if 0x61 ≤ n && n ≤ 0x7A then some (n - 0x61 + 26)
  else if 0x30 ≤ n && n ≤ 0x39 then some (n - 0x30 + 52)
  else if n = 0x2B then some 62
  else if n = 0x2F then some 63
  else none

def isBlankByte (b : UInt8) : Bool := (0x09 ≤ b && b ≤ 0x0D) || b == 0x20

/-- The bytes that digits write, four digits three bytes. What is left at the end writes as many
bytes as it fills. -/
def bytesOf : List Nat → Bytes
  | a :: b :: c :: d :: rest =>
    let n := ((a * 64 + b) * 64 + c) * 64 + d
    UInt8.ofNat (n / 65536) :: UInt8.ofNat (n / 256) :: UInt8.ofNat n :: bytesOf rest
  | [a, b, c] =>
    let n := (a * 64 + b) * 64 + c
    [UInt8.ofNat (n / 1024), UInt8.ofNat (n / 4)]
  | [a, b] => [UInt8.ofNat ((a * 64 + b) / 16)]
  | _ => []

/-- The sign that fills up the last group of digits. -/
def filler : UInt8 := 0x3D

/-- The bytes that base64 text writes. At most two fillers may stand at the end, and they may be
missing. -/
def decodeBase64? (bytes : Bytes) : Option Bytes :=
  let signs := bytes.filter (!isBlankByte ·)
  let fillers := signs.dropWhile (· != filler)
  if fillers.all (· == filler) && fillers.length ≤ 2 then
    ((signs.takeWhile (· != filler)).mapM digit?).map bytesOf
  else none

def lines : Bytes → List Bytes
  | [] => []
  | b :: rest =>
    if b = 0x0A || b = 0x0D then [b] :: lines rest
    else match lines rest with
      | [] => [[b]]
      | line :: more => (b :: line) :: more

def dash : UInt8 := 0x2D

/-- The label of a line that begins a section; the outer result is none for any other line, the
inner one for a line that does not end with five dashes. Blanks may stand between these. -/
def beginning? (line : Bytes) : Option (Option Bytes) :=
  let mark := ascii "-----BEGIN "
  if mark.isPrefixOf line then
    let isEnd (b : UInt8) := b == dash || b == 0x0A || b == 0x0D || b == 0x20
    let tail := (line.reverse.takeWhile isEnd).reverse.dropWhile (· != dash)
    if tail.count dash = 5 then
      some (some ((line.drop mark.length).take (line.length - mark.length - tail.length)))
    else some none
  else none

def label : Bytes := ascii "CERTIFICATE"

def knownLabels : List Bytes :=
  [label, ascii "PUBLIC KEY", ascii "RSA PRIVATE KEY", ascii "PRIVATE KEY", ascii "EC PRIVATE KEY",
   ascii "X509 CRL", ascii "CERTIFICATE REQUEST", ascii "ECHCONFIG"]

/-- A section that is not closed yet. -/
structure Open where
  label : Bytes
  content : Bytes

/-- The labels and contents of the sections of a file; none if one is not well formed. A section
that begins inside another takes its place and keeps the content so far. -/
def sections? : List Bytes → Option Open → Option (List (Bytes × Bytes))
  | [], none => some []
  | [], some _ => none
  | line :: rest, current =>
    match beginning? line with
    | some none => none
    | some (some name) => sections? rest (some ⟨name, (current.map Open.content).getD []⟩)
    | none =>
      match current with
      | none => sections? rest none
      | some ⟨name, content⟩ =>
        if (ascii "-----END " ++ name ++ ascii "-----").isPrefixOf line then
          (sections? rest none).map ((name, content) :: ·)
        else sections? rest (some ⟨name, content ++ line⟩)

/-- Extensions that are known, by the last byte of their name: the use of the key, other names of
the subject, basic constraints, constraints on names, where revocations are listed, and uses of the
key by name. -/
def knownExtensions : List UInt8 := [15, 17, 19, 30, 31, 37]

def extension? : Bytes → Option UInt8
  | [0x55, 0x1D, n] => if knownExtensions.contains n then some n else none
  | _ => none

/-- Whether an extension is critical, which it is not unless it says so; and what follows. -/
def critical? (bytes : Bytes) : Option (Bool × Bytes) :=
  if bytes.head? = some Der.Tag.boolean.byte then
    match Der.expect? .boolean bytes with
    | some ([0xFF], rest) => some (true, rest)
    | some ([0x00], rest) => some (false, rest)
    | _ => none
  else some (false, bytes)

/-- Reads an extension and adds it to the known ones so far; each may occur once. The use of the key
is the one that is no row of parts. -/
def addExtension? (seen : List UInt8) (bytes : Bytes) : Option (List UInt8) := do
  let (name, rest) ← Der.expect? .name bytes
  let (critical, rest) ← critical? rest
  let value ← Der.only? .octets rest
  match extension? name with
  | none => if critical then none else return seen
  | some n =>
    if seen.contains n || (n != 15 && (Der.only? .sequence value).isNone) then none
    else return n :: seen

def areExtensions (bytes : Bytes) : Bool :=
  bytes.isEmpty ||
    ((((Der.only? (.numbered 3) bytes).bind (Der.only? .sequence)).bind (Der.row? .sequence)).bind
      fun rows => rows.foldlM addExtension? []).isSome

/-- Whether the fields of a certificate behind its version are well formed: a serial number, the
algorithm of the signature as it stands outside too, issuer, validity, subject, key, extensions. -/
def areFields (algorithm fields : Bytes) : Bool :=
  match (Der.behind? [.integer] fields).bind (Der.expect? .sequence) with
  | none => false
  | some (inner, rest) =>
    inner == algorithm && (Der.behind? (List.replicate 4 .sequence) rest).any areExtensions

/-- Whether the fields of a certificate of the first version are well formed: it has no version and
no extensions. -/
def areOldFields (fields : Bytes) : Bool :=
  (Der.behind? (.integer :: List.replicate 5 .sequence) fields).any List.isEmpty

/-- The fields of a certificate and the algorithm of its signature, which is a whole number of
bytes. -/
def signed? (bytes : Bytes) : Option (Bytes × Bytes) := do
  let (fields, rest) ← Der.expect? .sequence (← Der.only? .sequence bytes)
  let (algorithm, rest) ← Der.expect? .sequence rest
  let signature ← Der.only? .bits rest
  if signature.head? = some 0 then return (fields, algorithm) else none

/-- Whether bytes are a certificate. Its version is the third or the first. -/
def isReadable (bytes : Bytes) : Bool :=
  match signed? bytes with
  | none => false
  | some (fields, algorithm) =>
    match Der.expect? (.numbered 0) fields with
    | none => areOldFields fields
    | some (version, rest) => Der.only? .integer version == some [2] && areFields algorithm rest

def isSound (name content : Bytes) : Bool :=
  if !knownLabels.contains name then true
  else match decodeBase64? content with
    | none => false
    | some bytes => name != label || isReadable bytes

def allReadable (file : Bytes) : Bool :=
  match sections? (lines file) none with
  | none => false
  | some sections => sections.all fun (name, content) => isSound name content

end DashboardCheck.Http.Certificate
