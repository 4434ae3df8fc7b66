import DashboardCheck.Text.Quoted

/-!
Random identifiers: 32 hexadecimal digits in five groups. One digit tells that they are random, and
two bits of another one tell the layout; all others are drawn.
-/
namespace DashboardCheck.Uuid

def hex : Nat → Nat → List Char
  | 0, _ => []
  | count + 1, n => hex count (n / 16) ++ Text.hexDigits (n % 16)

/-- The identifier that 122 drawn bits make; higher bits do not count. -/
def ofRandom (n : Nat) : String :=
  let a := hex 8 n
  let b := hex 4 (n / Nat.pow 2 32)
  let c := '4' :: hex 3 (n / Nat.pow 2 48)
  let d := hex 1 (8 + n / Nat.pow 2 60 % 4) ++ hex 3 (n / Nat.pow 2 62)
  let e := hex 12 (n / Nat.pow 2 74)
  String.ofList (a ++ '-' :: b ++ '-' :: c ++ '-' :: d ++ '-' :: e)

/-- Whether a text is such an identifier. -/
def isRandom (s : String) : Bool :=
  let isHex (c : Char) := ('0' ≤ c && c ≤ '9') || ('a' ≤ c && c ≤ 'f')
  s.length == 36 && s.toList.zipIdx.all fun (c, i) =>
    if i == 8 || i == 13 || i == 18 || i == 23 then c == '-'
    else if i == 14 then c == '4'
    else if i == 19 then ['8', '9', 'a', 'b'].contains c
    else isHex c

end DashboardCheck.Uuid
