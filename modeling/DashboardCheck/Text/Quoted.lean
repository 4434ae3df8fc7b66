import DashboardCheck.Text.PrintTable

/-!
A text shown inside a message: between double quotes, with escapes for quotes, backslashes and
everything that would not show.
-/
namespace DashboardCheck.Text

/-- The lower-case hexadecimal digits of a number, without leading zeros. -/
def hexDigits (n : Nat) : List Char :=
  (Nat.toDigits 16 n).map Char.toLower

/-- Whether a character belongs to the picture of the one before it. The two sound marks of half
width have the property Grapheme_Extend and stand by themselves nevertheless. -/
def extendsPicture (c : Char) : Bool :=
  inIntervals graphemeExtendIntervals c.toNat && !(0xFF9E ≤ c.toNat && c.toNat ≤ 0xFF9F)

/-- The letters that stand for a missing part of a Korean syllable; they have no picture. -/
def fillers : List Nat := [0x115F, 0x1160, 0x3164, 0xFFA0]

def isVisible (c : Char) : Bool :=
  !(extendsPicture c || fillers.contains c.toNat || inIntervals unprintableIntervals c.toNat)

def showChar (c : Char) : List Char :=
  if c = '\x00' then ['\\', '0']
  else if c = '\t' then ['\\', 't']
  else if c = '\r' then ['\\', 'r']
  else if c = '\n' then ['\\', 'n']
  else if c = '\\' || c = '"' then ['\\', c]
  else if isVisible c then [c]
  else '\\' :: 'u' :: '\x7b' :: hexDigits c.toNat ++ ['\x7d']

def quoted (s : String) : String :=
  String.ofList ('"' :: s.toList.flatMap showChar ++ ['"'])

end DashboardCheck.Text
