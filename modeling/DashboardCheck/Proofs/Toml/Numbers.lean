import DashboardCheck.Proofs.Number.Digits
import DashboardCheck.Toml.Parser
import Mathlib.Data.List.Basic
import Mathlib.Data.List.TakeWhile

/-!
# Numbers are read back

Digits without a zero in front are a whole number, and neither a date nor a time. A number of up to
64 bits is well within what is read as one, even where it is beyond 63 bits and a sign.
-/
namespace DashboardCheck.Toml

open Document Number

section Digits

variable {cs : List Char}

theorem isWord_of_isDigit {c : Char} (h : isDigit c = true) : isWord c = true := by
  have hall : ['=', ',', '[', ']', '\x7b', '\x7d', ' ', '\t', '#', '\r', '\n'].all
      (fun d => !isDigit d) = true := by decide
  have hnot : c ∉ ['=', ',', '[', ']', '\x7b', '\x7d', ' ', '\t', '#', '\r', '\n'] := by
    intro hmem
    have hc := List.all_eq_true.mp hall c hmem
    rw [h] at hc
    cases hc
  rw [isWord, List.contains_eq_mem, decide_eq_false hnot]
  rfl

theorem twoDigits?_suffix {limit n : Nat} {rest : List Char}
    (h : twoDigits? limit cs = some (n, rest)) : rest <:+ cs := by
  match cs with
  | [] => simp [twoDigits?] at h
  | [a] => simp [twoDigits?] at h
  | a :: b :: more =>
    simp only [twoDigits?, Option.ite_none_right_eq_some, Option.some.injEq, Prod.mk.injEq] at h
    obtain ⟨-, -, rfl⟩ := h
    exact ⟨[a, b], rfl⟩

/-- A date holds a dash. -/
theorem date?_of_digits (h : ∀ c ∈ cs, isDigit c = true) : date? cs = none := by
  rw [date?.eq_def]
  split
  · exact absurd (h '-' (by simp)) (by decide)
  · rfl

/-- A time holds a colon. -/
theorem time?_of_digits (h : ∀ c ∈ cs, isDigit c = true) : time? cs = none := by
  rw [time?]
  cases hhour : twoDigits? 23 cs with
  | none => rfl
  | some read =>
    obtain ⟨hour, rest⟩ := read
    have hsuffix := twoDigits?_suffix hhour
    match rest with
    | [] => rfl
    | c :: more =>
      have hc : c ≠ ':' := ne_of_isDigit (h c (hsuffix.subset (by simp))) (by decide)
      simp only [Option.bind_eq_bind, Option.bind_some]
      split
      · next heq => exact absurd (List.cons.inj heq).1 hc
      · rfl

theorem isMoment_of_digits (h : ∀ c ∈ cs, isDigit c = true) : isMoment cs = false := by
  rw [isMoment, date?_of_digits h, time?_of_digits h]
  rfl

theorem foldl_inBase_ten (h : ∀ c ∈ cs, isDigit c = true) (n : Nat) :
    cs.foldl (fun n c => n * 10 + (hexValue? c).getD 0) n = foldDigits n cs := by
  induction cs generalizing n with
  | nil => rfl
  | cons c cs ih =>
    have hvalue : (hexValue? c).getD 0 = digitValue c := by
      rw [hexValue?, if_pos (h c (by simp))]
      rfl
    rw [List.foldl_cons, hvalue, ih fun d hd => h d (by simp [hd])]
    rfl

end Digits

theorem inBase_digitsOf (n : Nat) : inBase 10 (digitsOf n) = n := by
  rw [inBase, foldl_inBase_ten fun _ => isDigit_of_mem_digitsOf, foldDigits_digitsOf]

theorem decimalInteger?_digitsOf (n : Nat) :
    decimalInteger? (digitsOf n) = some (some (n : Int)) := by
  have hdigit : ∀ c ∈ digitsOf n, isDigit c = true := fun _ => isDigit_of_mem_digitsOf
  have hsigned : signed (digitsOf n) = (false, digitsOf n) := by
    rw [signed.eq_def]
    split
    · next heq => exact absurd (hdigit '-' (by simp [heq])) (by decide)
    · next heq => exact absurd (hdigit '+' (by simp [heq])) (by decide)
    · rfl
  have hdrop : dropUnderscores (digitsOf n) = digitsOf n := by
    rw [dropUnderscores, List.filter_eq_self]
    intro c hc
    simpa using ne_of_isDigit (hdigit c hc) (by decide)
  have hspan : (digitsOf n).dropWhile isDigit = [] := List.dropWhile_eq_nil_iff.mpr hdigit
  have hwritten : decimalInteger? (digitsOf n) =
      some (some (Int.ofNat (inBase 10 (digitsOf n)))) := by
    rw [decimalInteger?, hsigned]
    dsimp only
    rw [hdrop]
    -- No digits, a lone zero, more behind a zero, and all else.
    split
    · next heq => exact absurd heq (digitsOf_ne_nil n)
    · next heq => simp [heq, isDigit]
    · next more hmore heq =>
      cases more with
      | nil => exact absurd rfl hmore
      | cons c more => exact absurd heq (digitsOf_ne_zero_cons n c more)
    · simp [hspan, isEmpty_digitsOf, all_isDigit_digitsOf]
  rw [hwritten, inBase_digitsOf]
  rfl

/-- A number of up to 64 bits is read back as a value. -/
theorem ofWord?_digitsOf {n : Nat} (h : n ≤ max64) (mark : Nat) :
    ofWord? mark (digitsOf n) = some (.scalar mark (.integer n)) := by
  have hdigit : ∀ c ∈ digitsOf n, isDigit c = true := fun _ => isDigit_of_mem_digitsOf
  have hnot : ∀ (c : Char) (more : List Char), isDigit c = false → digitsOf n ≠ c :: more := by
    intro c more hc hdigits
    exact ne_of_isDigit (hdigit c (by simp [hdigits])) hc rfl
  have hinteger : integer? (digitsOf n) = some (some (n : Int)) := by
    rw [integer?.eq_def]
    split
    · next heq => exact absurd heq (digitsOf_ne_zero_cons n _ _)
    · next heq => exact absurd heq (digitsOf_ne_zero_cons n _ _)
    · next heq => exact absurd heq (digitsOf_ne_zero_cons n _ _)
    · exact decimalInteger?_digitsOf n
  have hfits : fits128 n = true := by
    have hlow : Int.pow 2 127 = 170141183460469231731687303715884105728 := by decide
    have hhigh : Int.pow 2 128 = 340282366920938463463374607431768211456 := by decide
    rw [max64] at h
    simp only [fits128, hlow, hhigh, Bool.and_eq_true, decide_eq_true_eq]
    omega
  rw [ofWord?, if_neg (hnot _ _ (by decide)), if_neg (hnot _ _ (by decide)),
    isMoment_of_digits hdigit, hinteger]
  simp [hfits]

end DashboardCheck.Toml
