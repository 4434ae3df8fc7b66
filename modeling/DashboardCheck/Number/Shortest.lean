import DashboardCheck.Number.Numeral

/-!
The shortest decimal of a binary number: the fewest significant digits that lie within the
interval of reals rounding to it, and among those the nearest to it. `Style` holds the decisions
about where the point is written positionally and which of two equally near decimals is taken.
-/
namespace DashboardCheck.Number

/-- A positive decimal `0.d₁d₂d₃… · 10 ^ point`. -/
structure Decimal where
  digits : List Char
  point : Int
  deriving Repr, DecidableEq

structure Fraction where
  num : Nat
  den : Nat

def Fraction.ofBinary (m : Nat) (e : Int) : Fraction :=
  if 0 ≤ e then ⟨m * Nat.pow 2 e.toNat, 1⟩ else ⟨m, Nat.pow 2 (-e).toNat⟩

def Fraction.scale (f : Fraction) (k : Int) : Fraction :=
  if 0 ≤ k then ⟨f.num, f.den * Nat.pow 10 k.toNat⟩ else ⟨f.num * Nat.pow 10 (-k).toNat, f.den⟩

/-- The reals that round to one binary number. -/
structure Interval where
  low : Fraction
  high : Fraction
  /-- Whether the ends round to it too. -/
  closed : Bool

/-- Whether a natural number lies in the interval, in units of `10 ^ k`. -/
def Interval.holds (i : Interval) (k : Int) (n : Nat) : Bool :=
  let low := i.low.scale k
  let high := i.high.scale k
  if i.closed then low.num ≤ n * low.den && n * high.den ≤ high.num
  else low.num < n * low.den && n * high.den < high.num

/-- The number `p` of places before the point: the least with `f < 10 ^ p`. -/
def places (f : Fraction) : Int :=
  if f.den ≤ f.num then ((digitsOf (f.num / f.den)).length : Int)
  else
    let rec leading : Nat → Nat → Nat → Int
      | 0, _, _ => 0
      | fuel + 1, num, zeros =>
        if f.den ≤ num * 10 then -(zeros : Int) else leading fuel (num * 10) (zeros + 1)
    leading 400 f.num 0

/-- Which of two equally near multiples is taken. -/
inductive Tie where
  /-- The one with an even last digit. -/
  | toEven
  /-- The greater one. -/
  | up
  deriving DecidableEq, Repr

/-- Whether `low` is taken rather than `low + 1` when both are equally near. -/
def Tie.takesLow (tie : Tie) (low : Nat) : Bool :=
  match tie with
  | .toEven => low % 2 == 0
  | .up => false

/-- The nearer of the two neighbours of `f` among the multiples of `10 ^ k` within the interval. -/
def nearest? (tie : Tie) (f : Fraction) (i : Interval) (k : Int) : Option Nat :=
  let g := f.scale k
  let low := g.num / g.den
  let twice := 2 * (g.num % g.den)
  let preferLow := twice < g.den || (twice == g.den && tie.takesLow low)
  match i.holds k low, i.holds k (low + 1) with
  | true, true => some (if preferLow then low else low + 1)
  | true, false => some low
  | false, true => some (low + 1)
  | false, false => none

def shortestFrom (tie : Tie) (f : Fraction) (i : Interval) (p : Int) : Nat → Nat → Decimal
  | 0, _ => ⟨['0'], 1⟩
  | fuel + 1, n =>
    match nearest? tie f i (p - n) with
    | some value => ⟨digitsOf value, p - n + (digitsOf value).length⟩
    | none => shortestFrom tie f i p fuel (n + 1)

def Decimal.dropZeros (d : Decimal) : Decimal :=
  match (d.digits.reverse.dropWhile (· == '0')).reverse with
  | [] => ⟨['0'], 1⟩
  | digits => ⟨digits, d.point⟩

/-- The shortest decimal of `m · 2 ^ e`, where `narrow` says that the neighbour below is only half
as far away as the one above. -/
def shortest (tie : Tie) (m : Nat) (e : Int) (narrow : Bool) : Decimal :=
  let f := Fraction.ofBinary (4 * m) (e - 2)
  let below := if narrow then 1 else 2
  let i : Interval :=
    ⟨.ofBinary (4 * m - below) (e - 2), .ofBinary (4 * m + 2) (e - 2), m % 2 == 0⟩
  (shortestFrom tie f i (places f) 17 1).dropZeros

/-- How decimals are written. -/
structure Style where
  /-- Positional notation is used for these numbers of places before the point. -/
  least : Option Int
  most : Option Int
  tie : Tie

/-- Positional from 1e-5 up to, but without, 1e16. -/
def Style.scientific : Style := ⟨some (-4), some 16, .toEven⟩

def Style.positional : Style := ⟨none, none, .up⟩

/-- A decimal in a style; whole numbers keep one zero behind the point. -/
def Decimal.render (style : Style) (d : Decimal) : List Char :=
  let n := d.digits.length
  if style.least.all (· ≤ d.point) && style.most.all (d.point ≤ ·) then
    if d.point ≤ 0 then '0' :: '.' :: List.replicate (-d.point).toNat '0' ++ d.digits
    else if n ≤ d.point.toNat then d.digits ++ List.replicate (d.point.toNat - n) '0' ++ ['.', '0']
    else d.digits.take d.point.toNat ++ '.' :: d.digits.drop d.point.toNat
  else
    let exponent := d.point - 1
    let mantissa := match d.digits with
      | [] => []
      | [digit] => [digit]
      | digit :: rest => digit :: '.' :: rest
    mantissa ++ 'e' :: (if exponent < 0 then '-' else '+') :: digitsOf exponent.natAbs

def renderFloat (style : Style) (x : Float) : String :=
  let bits := x.toBits.toNat
  let negative : Bool := Nat.pow 2 63 ≤ bits
  let biased : Nat := bits / Nat.pow 2 52 % Nat.pow 2 11
  let fraction : Nat := bits % Nat.pow 2 52
  let sign : List Char := if negative then ['-'] else []
  if biased == 2047 then
    if fraction == 0 then String.ofList (sign ++ ['i', 'n', 'f']) else "NaN"
  else if biased == 0 && fraction == 0 then String.ofList (sign ++ ['0', '.', '0'])
  else
    let d := if biased == 0 then shortest style.tie fraction (-1074) false
      else
        let narrow := fraction == 0 && biased != 1
        shortest style.tie (Nat.pow 2 52 + fraction) ((biased : Int) - 1075) narrow
    String.ofList (sign ++ d.render style)

end DashboardCheck.Number
