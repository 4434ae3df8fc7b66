/-!
Integers written in decimal: an optional sign, then one or more ASCII digits, then nothing. A
number outside its range is not a numeral of that range. The main statement reads back what is
written.
-/
namespace DashboardCheck.Number

/-- The largest number of 16, 32 and 64 bits. -/
def max16 : Nat := 65535
@[inherit_doc max16] def max32 : Nat := 4294967295
@[inherit_doc max16] def max64 : Nat := 18446744073709551615

def isDigit (c : Char) : Bool :=
  '0' ≤ c && c ≤ '9'

def digitValue (c : Char) : Nat :=
  c.toNat - '0'.toNat

def foldDigits (n : Nat) (cs : List Char) : Nat :=
  cs.foldl (fun acc c => acc * 10 + digitValue c) n

def hexValue? (c : Char) : Option Nat :=
  if isDigit c then some (digitValue c)
  else if 'a' ≤ c && c ≤ 'f' then some (c.toNat - 'a'.toNat + 10)
  else if 'A' ≤ c && c ≤ 'F' then some (c.toNat - 'A'.toNat + 10)
  else none

def digits? (cs : List Char) : Option Nat :=
  if !cs.isEmpty && cs.all isDigit then some (foldDigits 0 cs) else none

/-- A natural number of at most `limit`; a plus sign may precede it. -/
def natural? (limit : Nat) (cs : List Char) : Option Nat :=
  (digits? (match cs with
    | '+' :: rest => rest
    | _ => cs)).filter (· ≤ limit)

/-- An integer from `low` to `high`; a sign may precede it. -/
def integer? (low high : Int) (cs : List Char) : Option Int :=
  (match cs with
    | '+' :: rest => (digits? rest).map Int.ofNat
    | '-' :: rest => (digits? rest).map fun n => -Int.ofNat n
    | _ => (digits? cs).map Int.ofNat).filter fun n => low ≤ n && n ≤ high

def digitsOf (n : Nat) : List Char :=
  Nat.toDigits 10 n

theorem all_isDigit_digitsOf (n : Nat) : (digitsOf n).all isDigit = true := by
  rw [List.all_eq_true]
  intro c hc
  exact Nat.isDigit_of_mem_toDigits (by omega) (by omega) hc

theorem foldDigits_eq (n : Nat) (cs : List Char) : foldDigits n cs = Nat.ofDigitChars 10 cs n := by
  induction cs generalizing n with
  | nil => simp [foldDigits]
  | cons c rest ih =>
    have hstep : foldDigits n (c :: rest) = foldDigits (n * 10 + digitValue c) rest := rfl
    rw [hstep, ih, Nat.ofDigitChars_cons, Nat.mul_comm n 10]
    rfl

theorem digitsOf_ne_nil (n : Nat) : digitsOf n ≠ [] := Nat.toDigits_ne_nil

/-- What is written is read back. -/
theorem digits?_digitsOf (n : Nat) : digits? (digitsOf n) = some n := by
  have hvalue : foldDigits 0 (digitsOf n) = n := by
    rw [foldDigits_eq]
    exact Nat.ofDigitChars_toDigits (by omega) (by omega)
  have hsome : (digitsOf n).isEmpty = false := by
    simp [digitsOf_ne_nil]
  rw [digits?, hsome, all_isDigit_digitsOf, hvalue]
  rfl

end DashboardCheck.Number
