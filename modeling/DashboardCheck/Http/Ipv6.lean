import DashboardCheck.Number.Numeral
import DashboardCheck.Text.Split
import DashboardCheck.Text.Quoted

/-!
IPv6 addresses: eight groups of 16 bits. An address is read from groups of up to four hexadecimal
digits, of which one run of zeros may be left out and the last two may be an IPv4 address; it is
written in one canonical way.
-/
namespace DashboardCheck.Http

structure Ipv6 where
  groups : List Nat
  size : groups.length = 8
  bounded : ∀ g ∈ groups, g < 65536

namespace Ipv6

open Number (hexValue?)

instance : DecidableEq Ipv6 := fun a b =>
  if h : a.groups = b.groups then .isTrue (by cases a; cases b; simp_all)
  else .isFalse fun e => h (by rw [e])

def ofGroups? (groups : List Nat) : Option Ipv6 :=
  if h : groups.length = 8 ∧ ∀ g ∈ groups, g < 65536 then some ⟨groups, h.1, h.2⟩ else none

/-- A group of at most so many hexadecimal digits, after those that make up `value`. -/
def hexDigits : Nat → Nat → List Char → Nat × List Char
  | 0, value, cs => (value, cs)
  | _, value, [] => (value, [])
  | count + 1, value, c :: rest =>
    match hexValue? c with
    | some digit => hexDigits count (value * 16 + digit) rest
    | none => (value, c :: rest)

/-- One to four hexadecimal digits, and no fifth. -/
def group? (cs : List Char) : Option (Nat × List Char) :=
  match cs with
  | [] => none
  | c :: _ =>
    if (hexValue? c).isNone then none
    else
      let (value, rest) := hexDigits 4 0 cs
      if (rest.head?.bind hexValue?).isSome then none else some (value, rest)

/-- A number below 256 without needless zeros. -/
def octet? (cs : List Char) : Option (Nat × List Char) :=
  let digits := cs.takeWhile Number.isDigit
  if digits.head? = some '0' && 1 < digits.length then none
  else (Number.digits? digits).bind fun n =>
    if n < 256 && digits.length ≤ 3 then some (n, cs.drop digits.length) else none

def behind? (c : Char) : List Char → Option (List Char)
  | d :: rest => if d = c then some rest else none
  | [] => none

def ipv4? (cs : List Char) : Option (List Nat × List Char) := do
  let (a, cs) ← octet? cs
  let cs ← behind? '.' cs
  let (b, cs) ← octet? cs
  let cs ← behind? '.' cs
  let (c, cs) ← octet? cs
  let cs ← behind? '.' cs
  let (d, cs) ← octet? cs
  return ([a * 256 + b, c * 256 + d], cs)

/-- Groups as they come. -/
structure Run where
  groups : List Nat
  /-- Whether they end with an IPv4 address. -/
  endsInIpv4 : Bool
  rest : List Char

/-- At most `room` groups with colons between them; `first` says that none came before. An IPv4
address needs room for two. -/
def run : Nat → Bool → List Char → Run
  | 0, _, cs => ⟨[], false, cs⟩
  | room + 1, first, cs =>
    match if first then some cs else behind? ':' cs with
    | none => ⟨[], false, cs⟩
    | some start =>
      match if 1 ≤ room then ipv4? start else none with
      | some (groups, rest) => ⟨groups, true, rest⟩
      | none =>
        match group? start with
        | none => ⟨[], false, cs⟩
        | some (g, rest) =>
          let more := run room false rest
          ⟨g :: more.groups, more.endsInIpv4, more.rest⟩

def parse? (cs : List Char) : Option Ipv6 :=
  let head := run 8 true cs
  if head.groups.length = 8 then
    if head.rest.isEmpty then ofGroups? head.groups else none
  else if head.endsInIpv4 then none
  else
    match head.rest with
    | ':' :: ':' :: rest =>
      let tail := run (7 - head.groups.length) true rest
      let missing := 8 - (head.groups.length + tail.groups.length)
      if tail.rest.isEmpty then
        ofGroups? (head.groups ++ List.replicate missing 0 ++ tail.groups)
      else none
    | _ => none

def zeroRuns : Nat → List Nat → List (Nat × Nat)
  | _, [] => []
  | start, g :: rest =>
    let more := zeroRuns (start + 1) rest
    if g = 0 then (start, 1 + (rest.takeWhile (· == 0)).length) :: more else more

/-- The first of the longest runs of at least two zeros: its start and its length. -/
def longestZeros (groups : List Nat) : Option (Nat × Nat) :=
  (zeroRuns 0 groups).foldl (fun best run =>
    if run.2 < 2 then best
    else match best with
      | some (_, length) => if length < run.2 then some run else best
      | none => some run) none

def writeGroups (groups : List Nat) : List Char :=
  (List.intersperse [':'] (groups.map Text.hexDigits)).flatten

/-- The address with its longest run of zeros left out. -/
def hexText (a : Ipv6) : List Char :=
  match longestZeros a.groups with
  | none => writeGroups a.groups
  | some (start, length) =>
    writeGroups (a.groups.take start) ++ [':', ':'] ++ writeGroups (a.groups.drop (start + length))

def writeIpv4 (high low : Nat) : List Char :=
  let bytes := [high / 256, high % 256, low / 256, low % 256]
  (List.intersperse ['.'] (bytes.map Number.digitsOf)).flatten

/-- The canonical text. The address that stands for an IPv4 address ends with that. -/
def text (a : Ipv6) : List Char :=
  match a.groups with
  | [0, 0, 0, 0, 0, 65535, high, low] => [':', ':', 'f', 'f', 'f', 'f', ':'] ++ writeIpv4 high low
  | _ => hexText a

end Ipv6

def hostText (address : String) : String :=
  match Ipv6.parse? address.toList with
  | some a => String.ofList ('[' :: a.text ++ [']'])
  | none => address

def unitUrl (scheme address : String) (port : Nat) : String :=
  s!"{scheme}://{hostText address}:{port}"

end DashboardCheck.Http
