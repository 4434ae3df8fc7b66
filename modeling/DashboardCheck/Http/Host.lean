import DashboardCheck.Http.Domain
import DashboardCheck.Http.Ipv6
import DashboardCheck.Http.Percent

/-!
The host of an address on the web: a name in lower case and in ASCII, an IPv4 address in four
decimal numbers, or an IPv6 address in brackets.
-/
namespace DashboardCheck.Http

open Text

def isForbiddenInHost (c : Char) : Bool :=
  ['\x00', '\t', '\n', '\r', ' ', '#', '/', ':', '<', '>', '?', '@', '[', '\\', ']', '^',
   '|'].contains c

def isForbiddenInName (c : Char) : Bool :=
  isForbiddenInHost c || c.toNat < 0x20 || c == '%' || c.toNat == 0x7F

def asciiName? (cs : List Char) : Option (List Char) :=
  (Domain.ascii? cs).filter fun name => !name.isEmpty && !name.any isForbiddenInName

def ipv4Number? (cs : List Char) : Option Nat :=
  let value (base : Nat) (digits : List Char) : Option Nat :=
    digits.foldl (fun acc c => acc.bind fun n =>
      (Number.hexValue? c).bind fun d => if d < base then some (n * base + d) else none) (some 0)
  match cs with
  | [] => none
  | '0' :: 'x' :: rest => value 16 rest
  | '0' :: 'X' :: rest => value 16 rest
  | '0' :: rest => value 8 rest
  | _ => value 10 cs

def dropLastEmpty (labels : List (List Char)) : List (List Char) :=
  if labels.getLast? = some [] && 1 < labels.length then labels.dropLast else labels

def endsInNumber (name : List Char) : Bool :=
  match (dropLastEmpty (pieces '.' name)).getLast? with
  | some label => !label.isEmpty && (label.all Number.isDigit || (ipv4Number? label).isSome)
  | none => false

/-- The value of an IPv4 address of one to four numbers; the last fills what is left. -/
def ipv4Value? (name : List Char) : Option Nat := do
  let numbers ← (dropLastEmpty (pieces '.' name)).mapM ipv4Number?
  let last ← numbers.getLast?
  let front := numbers.dropLast
  if 3 < front.length || front.any (255 < ·) || Nat.pow 256 (4 - front.length) ≤ last then none
  else return front.foldl (fun acc n => acc * 256 + n) 0 * Nat.pow 256 (4 - front.length) + last

def ipv4Text (n : Nat) : List Char :=
  Ipv6.writeIpv4 (n / 65536) (n % 65536)

def host? (cs : List Char) : Option (List Char) :=
  match cs with
  | '[' :: rest =>
    if rest.getLast? = some ']' then
      (Ipv6.parse? rest.dropLast).map fun a => '[' :: a.hexText ++ [']']
    else none
  | _ => do
    let name ← asciiName? (decodeLossy (percentDecode (encode (String.ofList cs)))).toList
    if endsInNumber name then (ipv4Value? name).map ipv4Text else return name

def opaqueHost? (cs : List Char) : Option (List Char) :=
  match cs with
  | '[' :: _ => host? cs
  | _ => if cs.any isForbiddenInHost then none else some (percentEncode [] cs)

end DashboardCheck.Http
