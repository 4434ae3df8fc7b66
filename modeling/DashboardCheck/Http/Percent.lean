import DashboardCheck.Text.Quoted
import DashboardCheck.Text.Utf8

/-!
Percent-encoding: a byte written as a percent sign and two hexadecimal digits.
-/
namespace DashboardCheck.Http

open Text

/-- Characters that are encoded everywhere: controls and everything beyond ASCII. -/
def isPlainAscii (c : Char) : Bool := 0x20 ≤ c.toNat && c.toNat ≤ 0x7E

def percentByte (b : UInt8) : List Char :=
  let digits := (hexDigits b.toNat).map Char.toUpper
  '%' :: (if b.toNat < 16 then '0' :: digits else digits)

def percentChar (reserved : List Char) (c : Char) : List Char :=
  if isPlainAscii c && !reserved.contains c then [c]
  else (encode (String.singleton c)).flatMap percentByte

def percentEncode (reserved : List Char) (cs : List Char) : List Char :=
  cs.flatMap (percentChar reserved)

def nibble? (b : UInt8) : Option Nat :=
  let n := b.toNat
  if 0x30 ≤ n && n ≤ 0x39 then some (n - 0x30)
  else if 0x61 ≤ n && n ≤ 0x66 then some (n - 0x57)
  else if 0x41 ≤ n && n ≤ 0x46 then some (n - 0x37)
  else none

/-- The bytes behind percent signs; a percent sign without two digits stays. -/
def percentDecode : Bytes → Bytes
  | 0x25 :: a :: b :: rest =>
    match nibble? a, nibble? b with
    | some x, some y => UInt8.ofNat (x * 16 + y) :: percentDecode rest
    | _, _ => 0x25 :: percentDecode (a :: b :: rest)
  | b :: rest => b :: percentDecode rest
  | [] => []

end DashboardCheck.Http
