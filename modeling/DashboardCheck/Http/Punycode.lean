/-!
Punycode: names with characters beyond ASCII, written with letters, digits and hyphens. The
characters beyond ASCII are taken in ascending order, and each of their places is written as the
distance from the one before, in a number system whose digit limits adapt as it goes.
-/
namespace DashboardCheck.Http.Punycode

def digitChar (d : Nat) : Char :=
  if d < 26 then Char.ofNat (0x61 + d) else Char.ofNat (0x30 + d - 26)

def digitValue? (c : Char) : Option Nat :=
  let n := c.toNat
  if 0x61 ≤ n && n ≤ 0x7A then some (n - 0x61)
  else if 0x41 ≤ n && n ≤ 0x5A then some (n - 0x41)
  else if 0x30 ≤ n && n ≤ 0x39 then some (n - 0x30 + 26)
  else none

/-- From this value on a digit has one to follow. `k` grows by 36 with each digit. -/
def threshold (k bias : Nat) : Nat :=
  if k ≤ bias then 1 else if bias + 26 ≤ k then 26 else k - bias

/-- How often 35 goes into a distance before it is small, and what is left. -/
def shrink (delta k : Nat) : Nat × Nat :=
  if 455 < delta then shrink (delta / 35) (k + 36) else (delta, k)
termination_by delta
decreasing_by exact Nat.div_lt_self (by omega) (by omega)

/-- The bias after a distance, which is the first or not, with so many characters placed. -/
def adapt (delta count : Nat) (first : Bool) : Nat :=
  let delta := if first then delta / 700 else delta / 2
  let (delta, k) := shrink (delta + delta / count) 0
  k + 36 * delta / (delta + 38)

theorem threshold_bounds (k bias : Nat) : 1 ≤ threshold k bias ∧ threshold k bias ≤ 26 := by
  unfold threshold
  split
  · omega
  · split <;> omega

def writeDistance (bias k q : Nat) : List Char :=
  let t := threshold k bias
  if q < t then [digitChar q]
  else digitChar (t + (q - t) % (36 - t)) :: writeDistance bias (k + 36) ((q - t) / (36 - t))
termination_by q
decreasing_by
  have := threshold_bounds k bias
  have := Nat.div_le_self (q - threshold k bias) (36 - threshold k bias)
  omega

/-- A text in the making. -/
structure Draft where
  out : List Char
  delta : Nat
  bias : Nat
  /-- How many characters are placed. -/
  placed : Nat

def Draft.pass (basic sought : Nat) (d : Draft) (c : Char) : Draft :=
  if c.toNat < sought then { d with delta := d.delta + 1 }
  else if c.toNat = sought then
    { out := d.out ++ writeDistance d.bias 36 d.delta
      delta := 0
      bias := adapt d.delta (d.placed + 1) (d.placed == basic)
      placed := d.placed + 1 }
  else d

/-- Places the characters of ascending code points. `next` is the least that is not done. -/
def Draft.place (name : List Char) (basic : Nat) : List Nat → Nat → Draft → Draft
  | [], _, d => d
  | sought :: rest, next, d =>
    let d := { d with delta := d.delta + (sought - next) * (d.placed + 1) }
    let d := name.foldl (Draft.pass basic sought) d
    Draft.place name basic rest (sought + 1) { d with delta := d.delta + 1 }

/-- The text of a name, without a mark that it is one. -/
def encode (name : List Char) : List Char :=
  let basic := name.filter fun c => c.toNat < 0x80
  let others := ((name.filter fun c => 0x80 ≤ c.toNat).map Char.toNat).mergeSort.eraseDups
  let start : Draft := ⟨[], 0, 72, basic.length⟩
  basic ++ (if basic.isEmpty then [] else ['-']) ++
    (Draft.place name basic.length others 128 start).out

def readDistance? (bias : Nat) : List Char → Nat → Nat → Nat → Option (Nat × List Char)
  | [], _, _, _ => none
  | c :: rest, k, weight, i => do
    let digit ← digitValue? c
    let i := i + digit * weight
    let t := threshold k bias
    if digit < t then return (i, rest)
    else readDistance? bias rest (k + 36) (weight * (36 - t)) i

/-- Places characters as the distances say. The first number bounds how many there are. -/
def decodeFrom? : Nat → List Char → Nat → Nat → Nat → List Char → Option (List Char)
  | _, [], _, _, _, out => some out
  | 0, _, _, _, _, _ => none
  | fuel + 1, cs, n, i, bias, out => do
    let (j, rest) ← readDistance? bias cs 36 1 i
    let count := out.length + 1
    let n := n + j / count
    let slot := j % count
    if h : n.isValidChar then
      decodeFrom? fuel rest n (slot + 1) (adapt (j - i) count (i == 0))
        (out.take slot ++ Char.ofNatAux n h :: out.drop slot)
    else none

/-- The name that a text writes, if it writes one. A hyphen that nothing precedes is no digit. -/
def decode? (cs : List Char) : Option (List Char) :=
  let tail := (cs.reverse.takeWhile (· != '-')).reverse
  let basic := cs.take (cs.length - tail.length - 1)
  if basic.isEmpty then decodeFrom? cs.length cs 128 0 72 []
  else decodeFrom? cs.length tail 128 0 72 basic

end DashboardCheck.Http.Punycode
