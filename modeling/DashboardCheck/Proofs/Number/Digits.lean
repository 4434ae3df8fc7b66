import DashboardCheck.Number.Numeral
import Mathlib.Data.List.Basic
import Mathlib.Data.List.Induction
import Mathlib.Data.List.TakeWhile

/-!
# Decimal digits

A number has one row of digits without a needless zero in front, and that is how it is written.
-/
namespace DashboardCheck.Number

/-- Among digits there is nothing that any digit is not. -/
theorem ne_of_isDigit {c d : Char} (hc : isDigit c = true) (hd : isDigit d = false) : c ≠ d := by
  rintro rfl
  simp [hc] at hd

theorem isDigit_of_mem_digitsOf {n : Nat} {c : Char} (h : c ∈ digitsOf n) : isDigit c = true :=
  List.all_eq_true.mp (all_isDigit_digitsOf n) c h

theorem not_mem_digitsOf {c : Char} (hc : isDigit c = false) (n : Nat) : c ∉ digitsOf n :=
  fun hmem => ne_of_isDigit (isDigit_of_mem_digitsOf hmem) hc rfl

theorem isEmpty_digitsOf (n : Nat) : (digitsOf n).isEmpty = false := by
  simp [digitsOf_ne_nil]

theorem foldDigits_digitsOf (n : Nat) : foldDigits 0 (digitsOf n) = n := by
  rw [foldDigits_eq]
  exact Nat.ofDigitChars_toDigits (by omega) (by omega)

theorem digitsOf_eq_append {n : Nat} (h : 10 ≤ n) :
    ∃ c, digitsOf n = digitsOf (n / 10) ++ [c] :=
  ⟨Nat.digitChar (n % 10), by rw [digitsOf, Nat.toDigits_eq_if (by omega), if_neg (by omega)]; rfl⟩

/-- The digits of a number do not begin with zero unless it is zero. -/
theorem digitsOf_head {n : Nat} (h : 0 < n) : (digitsOf n).head? ≠ some '0' := by
  induction n using Nat.strongRecOn with
  | ind n ih =>
    by_cases hsmall : n < 10
    · have hall : ∀ m < 10, 0 < m → (digitsOf m).head? ≠ some '0' := by decide
      exact hall n hsmall h
    · obtain ⟨c, hdigits⟩ := digitsOf_eq_append (Nat.le_of_not_lt hsmall)
      have hless : n / 10 < n := by omega
      rw [hdigits, List.head?_append_of_ne_nil _ (digitsOf_ne_nil _)]
      exact ih (n / 10) hless (by omega)

/-- Of two digits or more, the first is not zero. -/
theorem digitsOf_ne_zero_cons (n : Nat) (c : Char) (more : List Char) :
    digitsOf n ≠ '0' :: c :: more := by
  intro hdigits
  rcases Nat.eq_zero_or_pos n with rfl | hpos
  · have hzero : digitsOf 0 = ['0'] := by decide
    rw [hzero] at hdigits
    simp at hdigits
  · exact digitsOf_head hpos (by rw [hdigits]; rfl)

theorem digitChar_digitValue {c : Char} (h : isDigit c = true) :
    digitValue c < 10 ∧ Nat.digitChar (digitValue c) = c := by
  have hrange : 48 ≤ c.toNat ∧ c.toNat ≤ 57 := by
    simpa [isDigit, Char.le_def, UInt32.le_iff_toNat_le] using h
  have hall : ∀ n < 58, 48 ≤ n → Nat.digitChar (n - 48) = Char.ofNat n := by decide
  have hvalue : digitValue c = c.toNat - 48 := rfl
  rw [hvalue, hall _ (by omega) hrange.1, Char.ofNat_toNat]
  exact ⟨by omega, rfl⟩

theorem foldDigits_append (n : Nat) (cs ds : List Char) :
    foldDigits n (cs ++ ds) = foldDigits (foldDigits n cs) ds := by
  simp [foldDigits]

/-- A row of digits without a needless zero is how its number is written. -/
theorem digitsOf_foldDigits {cs : List Char} (hne : cs ≠ []) (hdigits : ∀ c ∈ cs, isDigit c = true)
    (hzero : ∀ c more, cs ≠ '0' :: c :: more) : digitsOf (foldDigits 0 cs) = cs := by
  induction cs using List.reverseRecOn with
  | nil => exact absurd rfl hne
  | append_singleton cs c ih =>
    obtain ⟨hsmall, hchar⟩ := digitChar_digitValue (hdigits c (by simp))
    have hlast : digitsOf (digitValue c) = [c] := by
      rw [digitsOf, Nat.toDigits_of_lt_base hsmall, hchar]
    rw [foldDigits_append]
    cases hcs : cs with
    | nil =>
      have hvalue : foldDigits (foldDigits 0 []) [c] = digitValue c := by
        simp [foldDigits]
      rw [hvalue, hlast, List.nil_append]
    | cons first more =>
      have hwritten : digitsOf (foldDigits 0 cs) = cs := by
        refine ih (by simp [hcs]) (fun d hd => hdigits d (by simp [hd])) ?_
        rintro d rest rfl
        exact hzero d (rest ++ [c]) rfl
      have hpositive : 0 < foldDigits 0 cs := by
        rw [Nat.pos_iff_ne_zero]
        intro hnone
        have hsingle : cs = ['0'] := by
          rw [← hwritten, hnone]
          decide
        exact hzero c [] (by rw [hsingle]; rfl)
      have hstep : foldDigits (foldDigits 0 cs) [c] = 10 * foldDigits 0 cs + digitValue c := by
        simp [foldDigits, Nat.mul_comm]
      rw [← hcs, hstep, digitsOf, ← Nat.toDigits_append_toDigits (by omega) hpositive hsmall,
        ← digitsOf, ← digitsOf, hwritten, hlast]

theorem digits?_eq_some_iff {cs : List Char} {n : Nat} :
    digits? cs = some n ↔ cs ≠ [] ∧ (∀ c ∈ cs, isDigit c = true) ∧ foldDigits 0 cs = n := by
  rw [digits?]
  split
  · next h => simp_all
  · next h =>
    simp only [reduceCtorEq, false_iff]
    rintro ⟨hne, hdigits, -⟩
    exact h (by simpa [hne] using hdigits)

section Leading

variable {ds rest : List Char}

/-- Digits that something else follows are all the digits that stand in front. -/
theorem takeWhile_isDigit_append (hdigits : ∀ c ∈ ds, isDigit c = true)
    (hstop : ∀ c ∈ rest.head?, isDigit c = false) : (ds ++ rest).takeWhile isDigit = ds := by
  rw [List.takeWhile_append_of_pos hdigits]
  cases rest with
  | nil => simp
  | cons c rest => simp [hstop c (by simp)]

theorem dropWhile_isDigit_append (hdigits : ∀ c ∈ ds, isDigit c = true)
    (hstop : ∀ c ∈ rest.head?, isDigit c = false) : (ds ++ rest).dropWhile isDigit = rest := by
  rw [List.dropWhile_append_of_pos hdigits]
  cases rest with
  | nil => simp
  | cons c rest => simp [hstop c (by simp)]

theorem head?_dropWhile_isDigit (cs : List Char) :
    ∀ c ∈ (cs.dropWhile isDigit).head?, isDigit c = false := by
  intro c hc
  have hhead := List.head?_dropWhile_not isDigit cs
  rwa [Option.mem_def.mp hc] at hhead

end Leading

end DashboardCheck.Number
