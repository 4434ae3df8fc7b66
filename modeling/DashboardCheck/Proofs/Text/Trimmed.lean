import DashboardCheck.Text.Blank
import Mathlib.Data.List.DropRight

/-!
# Trimmed texts

Blanks at the ends of a text do not change what is left when it is trimmed, whether all of them are
there or some. A character that is no blank keeps what stands on either side of it apart: what is
before it loses blanks at its start only, and what is behind it at its end only.
-/
namespace DashboardCheck.Text

theorem dropBlankEnd_dropBlankEnd (cs : List Char) :
    dropBlankEnd (dropBlankEnd cs) = dropBlankEnd cs :=
  List.rdropWhile_idempotent isBlank cs

theorem dropBlankEnd_append_blanks {b : List Char} (hb : ∀ c ∈ b, isBlank c = true)
    (cs : List Char) : dropBlankEnd (cs ++ b) = dropBlankEnd cs := by
  rw [dropBlankEnd, List.reverse_append, List.dropWhile_append_of_pos (by simpa using hb),
    ← dropBlankEnd]

/-- Blanks at the end are dropped from what stands behind the last other character. -/
theorem dropBlankEnd_append_cons {c : Char} (hc : isBlank c = false) (cs rest : List Char) :
    dropBlankEnd (cs ++ c :: rest) = cs ++ c :: dropBlankEnd rest := by
  have hreverse : (cs ++ c :: rest).reverse = rest.reverse ++ c :: cs.reverse := by simp
  have hstop : (c :: cs.reverse).dropWhile isBlank = c :: cs.reverse :=
    List.dropWhile_cons_of_neg (by simp [hc])
  have hdrop : (rest.reverse ++ c :: cs.reverse).dropWhile isBlank =
      rest.reverse.dropWhile isBlank ++ c :: cs.reverse := by
    rw [List.dropWhile_append, hstop]
    split
    · next hempty => rw [List.isEmpty_iff.mp hempty, List.nil_append]
    · rfl
  rw [dropBlankEnd, hreverse, hdrop, dropBlankEnd]
  simp

/-- Blanks at the start are dropped from what stands before the first other character. -/
theorem dropWhile_append_cons {c : Char} (hc : isBlank c = false) (cs rest : List Char) :
    (cs ++ c :: rest).dropWhile isBlank = cs.dropWhile isBlank ++ c :: rest := by
  rw [List.dropWhile_append, List.dropWhile_cons_of_neg (by simp [hc])]
  split
  · next hempty => rw [List.isEmpty_iff.mp hempty, List.nil_append]
  · rfl

/-- Blanks inside of a text stay: a text is trimmed at each end up to the first other character. -/
theorem trimChars_append_cons {c : Char} (hc : isBlank c = false) (cs rest : List Char) :
    trimChars (cs ++ c :: rest) = cs.dropWhile isBlank ++ c :: dropBlankEnd rest := by
  rw [trimChars, dropWhile_append_cons hc, dropBlankEnd_append_cons hc]

theorem trimChars_dropWhile (cs : List Char) :
    trimChars (cs.dropWhile isBlank) = trimChars cs := by
  rw [trimChars, List.dropWhile_idempotent, trimChars]

theorem trimChars_dropBlankEnd (cs : List Char) : trimChars (dropBlankEnd cs) = trimChars cs := by
  have hsplit := List.takeWhile_append_dropWhile (p := isBlank) (l := cs)
  cases hrest : cs.dropWhile isBlank with
  | nil =>
    have hblank : ∀ c ∈ cs, isBlank c = true := List.dropWhile_eq_nil_iff.mp hrest
    have hnone : dropBlankEnd cs = [] := dropBlankEnd_append_blanks hblank []
    rw [hnone, trimChars_nil, trimChars, hrest]
    rfl
  | cons c rest =>
    have hc : isBlank c = false := dropWhile_head (by rw [hrest]; rfl)
    rw [hrest] at hsplit
    rw [← hsplit, dropBlankEnd_append_cons hc, trimChars_append_cons hc, trimChars_append_cons hc,
      dropBlankEnd_dropBlankEnd]

/-- Blanks around a text make no difference. -/
theorem trimChars_surrounded {a b : List Char} (ha : ∀ c ∈ a, isBlank c = true)
    (hb : ∀ c ∈ b, isBlank c = true) (cs : List Char) :
    trimChars (a ++ cs ++ b) = trimChars cs := by
  calc trimChars (a ++ cs ++ b)
      = trimChars (dropBlankEnd (a ++ cs ++ b)) := (trimChars_dropBlankEnd _).symm
    _ = trimChars (a ++ cs) := by rw [dropBlankEnd_append_blanks hb, trimChars_dropBlankEnd]
    _ = trimChars cs := by rw [trimChars, List.dropWhile_append_of_pos ha, ← trimChars]

/-- What trimming drops are blanks at the two ends. -/
theorem exists_trimChars_split (cs : List Char) :
    ∃ a b, (∀ c ∈ a, isBlank c = true) ∧ (∀ c ∈ b, isBlank c = true) ∧
      cs = a ++ trimChars cs ++ b := by
  refine ⟨cs.takeWhile isBlank, (cs.dropWhile isBlank).rtakeWhile isBlank,
    fun c hc => List.mem_takeWhile_imp hc, fun c hc => List.mem_rtakeWhile_imp hc, ?_⟩
  have hend : trimChars cs ++ (cs.dropWhile isBlank).rtakeWhile isBlank = cs.dropWhile isBlank :=
    List.rdropWhile_append_rtakeWhile
  rw [List.append_assoc, hend, List.takeWhile_append_dropWhile]

/-- Blanks around a text that has none are dropped. -/
theorem trimChars_between {a b cs : List Char} (ha : ∀ c ∈ a, isBlank c = true)
    (hb : ∀ c ∈ b, isBlank c = true) (hcs : ∀ c ∈ cs, isBlank c = false) :
    trimChars (a ++ cs ++ b) = cs := by
  rw [trimChars_surrounded ha hb]
  exact trimChars_of_ends (fun c hc => hcs c (List.mem_of_head? hc))
    fun c hc => hcs c (List.mem_of_getLast? hc)

end DashboardCheck.Text
