import DashboardCheck.Proofs.Text.Lenient
import DashboardCheck.Text.Blank
import DashboardCheck.Text.Lower

/-!
# Lower case is final

A text in lower case has no other lower case: no letter that the case table gives has itself an
entry there, and neither of the two small sigmas is the capital one. And what is trimmed stays
trimmed, as no letter becomes a blank.
-/
namespace DashboardCheck.Text

/-- A run of the case table: its first and its last letter, the step from one to the next and the
shift to their lower case. -/
abbrev CaseRun := Nat × Nat × Nat × Int

namespace CaseRun

/-- Whether a code point is one of the letters of a run. -/
def Has (run : CaseRun) (n : Nat) : Prop :=
  run.1 ≤ n ∧ n ≤ run.2.1 ∧ (n - run.1) % run.2.2.1 = 0

def shifted (run : CaseRun) (n : Nat) : Nat := ((n : Int) + run.2.2.2).toNat

/-- Whether no letter of one run has a letter of another for its lower case. Where the other takes
every second code point, the first may give those between. -/
def isApart (run other : CaseRun) : Bool :=
  Nat.blt (run.shifted run.2.1) other.1 || Nat.blt other.2.1 (run.shifted run.1) ||
    (other.2.2.1 == 2 && (run.2.2.1 == 2 || run.1 == run.2.1) &&
      (run.shifted run.1 + other.1) % 2 == 1)

def avoids (run : CaseRun) (first last : Nat) : Bool :=
  Nat.blt (run.shifted run.2.1) first || Nat.blt last (run.shifted run.1)

/-- Whether the lower case of a run is final: made of characters that are not blank and not upper
case by themselves. -/
def isFinal (run : CaseRun) : Bool :=
  decide (0 ≤ (run.1 : Int) + run.2.2.2) && lowerRuns.all run.isApart &&
    -- The capital letters of ASCII, the capital I with a dot and the capital sigma.
    [(0x41, 0x5A), (0x130, 0x130), (0x3A3, 0x3A3)].all (fun part => run.avoids part.1 part.2) &&
    -- The blanks, and what is not a character.
    [(0x9, 0xD), (0x20, 0x20), (0x85, 0x85), (0xA0, 0xA0), (0x1680, 0x1680), (0x2000, 0x200A),
      (0x2028, 0x2029), (0x202F, 0x202F), (0x205F, 0x205F), (0x3000, 0x3000), (0xD800, 0xDFFF)].all
      (fun part => run.avoids part.1 part.2) &&
    Nat.blt (run.shifted run.2.1) 0x110000

theorem isFinal_of_mem : ∀ run ∈ lowerRuns, isFinal run = true := by
  rw [← List.all_eq_true]
  decide +kernel

section

variable {run other : CaseRun} {n : Nat} (h : run.Has n)
include h

theorem Has.outside {first last : Nat} (hapart : run.avoids first last = true) :
    run.shifted n < first ∨ last < run.shifted n := by
  obtain ⟨hlow, hhigh, -⟩ := h
  simp only [avoids, shifted, Bool.or_eq_true, Nat.blt_eq] at hapart ⊢
  omega

theorem Has.not_has (hpositive : 0 ≤ (run.1 : Int) + run.2.2.2)
    (hapart : run.isApart other = true) : ¬other.Has (run.shifted n) := by
  rintro ⟨hlow', hhigh', hstep'⟩
  obtain ⟨hlow, hhigh, hstep⟩ := h
  simp only [isApart, shifted, Bool.or_eq_true, Bool.and_eq_true, Nat.blt_eq, beq_iff_eq] at hapart
  simp only [shifted] at hlow' hhigh' hstep'
  rcases hapart with (hless | hless) | ⟨⟨htwo, heven⟩, hodd⟩
  · omega
  · omega
  · rw [htwo] at hstep'
    rcases heven with heven | heven
    · rw [heven] at hstep
      omega
    · omega

end

end CaseRun

/-- What lower case makes of a character by itself. -/
theorem lowerChar_cases (c : Char) :
    (c.toNat < 0x80 ∧ lowerChar c = [c.toLower]) ∨
      (c.toNat = 0x130 ∧ lowerChar c = ['i', Char.ofNat 0x307]) ∨
      (∃ run ∈ lowerRuns, CaseRun.Has run c.toNat ∧
        lowerChar c = [Char.ofNat (CaseRun.shifted run c.toNat)]) ∨
      lowerChar c = [c] := by
  simp only [lowerChar]
  split
  · next hascii => exact .inl ⟨hascii, rfl⟩
  · split
    · next hdotted => exact .inr (.inl ⟨hdotted, rfl⟩)
    · split
      · next first last step shift hfind =>
        have hhas := List.find?_some hfind
        simp only [Bool.and_eq_true, decide_eq_true_eq, beq_iff_eq] at hhas
        exact .inr (.inr (.inl
          ⟨_, List.mem_of_find?_eq_some hfind, ⟨hhas.1.1, hhas.1.2, hhas.2⟩, rfl⟩))
      · exact .inr (.inr (.inr rfl))

/-- A character outside of all runs of capital letters is left as it is. -/
theorem lowerChar_eq_self {c : Char} (hascii : c.toNat < 0x41 ∨ 0x5A < c.toNat)
    (hdotted : c.toNat ≠ 0x130) (hruns : ∀ run ∈ lowerRuns, ¬CaseRun.Has run c.toNat) :
    lowerChar c = [c] := by
  rcases lowerChar_cases c with ⟨-, h⟩ | ⟨h, -⟩ | ⟨run, hrun, hhas, -⟩ | h
  · have hnot : ¬(c.val ≥ 'A'.val ∧ c.val ≤ 'Z'.val) := by
      rintro ⟨hfirst, hlast⟩
      have hfirst' : 0x41 ≤ c.toNat := UInt32.le_iff_toNat_le.mp hfirst
      have hlast' : c.toNat ≤ 0x5A := UInt32.le_iff_toNat_le.mp hlast
      omega
    have hsame : c.toLower = c := dif_neg hnot
    rw [h, hsame]
  · exact absurd h hdotted
  · exact absurd hhas (hruns run hrun)
  · exact h

/-- A character is in lower case if it has no other one and is not the capital sigma. -/
def IsLower (c : Char) : Prop := lowerChar c = [c] ∧ c ≠ 'Σ'

theorem isLower_toLower {c : Char} (h : c.toNat < 0x80) : IsLower c.toLower := by
  have hall : ∀ n < 0x80, lowerChar (Char.ofNat n).toLower = [(Char.ofNat n).toLower] ∧
      (Char.ofNat n).toLower ≠ 'Σ' := by decide
  rw [← Char.ofNat_toNat c]
  exact hall c.toNat h

theorem isBlank_toLower {c : Char} (h : c.toNat < 0x80) (hc : isBlank c = false) :
    isBlank c.toLower = false := by
  have hall : ∀ n < 0x80, isBlank (Char.ofNat n) = false → isBlank (Char.ofNat n).toLower = false :=
    by decide
  simpa [hc] using hall c.toNat h

/-- The lower case of a letter in the case table. -/
theorem CaseRun.Has.lower {run : CaseRun} {n : Nat} (h : run.Has n) (hrun : run ∈ lowerRuns) :
    IsLower (Char.ofNat (run.shifted n)) ∧ isBlank (Char.ofNat (run.shifted n)) = false := by
  have hfinal := isFinal_of_mem run hrun
  rw [isFinal, Bool.and_eq_true, Bool.and_eq_true, Bool.and_eq_true, Bool.and_eq_true,
    decide_eq_true_eq, List.all_eq_true, List.all_eq_true, List.all_eq_true, Nat.blt_eq] at hfinal
  obtain ⟨⟨⟨⟨hpositive, happarts⟩, hcapitals⟩, hothers⟩, hbound⟩ := hfinal
  have houtside : ∀ part ∈ [(0x41, 0x5A), (0x130, 0x130), (0x3A3, 0x3A3)],
      run.shifted n < part.1 ∨ part.2 < run.shifted n :=
    fun part hpart => h.outside (hcapitals part hpart)
  have houtside' : ∀ part ∈ [(0x9, 0xD), (0x20, 0x20), (0x85, 0x85), (0xA0, 0xA0), (0x1680, 0x1680),
      (0x2000, 0x200A), (0x2028, 0x2029), (0x202F, 0x202F), (0x205F, 0x205F), (0x3000, 0x3000),
      (0xD800, 0xDFFF)], run.shifted n < part.1 ∨ part.2 < run.shifted n :=
    fun part hpart => h.outside (hothers part hpart)
  simp only [List.forall_mem_cons, List.not_mem_nil, false_imp_iff, implies_true, and_true]
    at houtside houtside'
  have hlast : run.shifted n < 0x110000 := by
    obtain ⟨-, hhigh, -⟩ := h
    simp only [shifted] at hbound ⊢
    omega
  have hpoint : (Char.ofNat (run.shifted n)).toNat = run.shifted n :=
    toNat_ofNat_of_isValidChar (by rw [Nat.isValidChar]; omega)
  refine ⟨⟨lowerChar_eq_self ?_ ?_ ?_, ?_⟩, ?_⟩
  · rw [hpoint]
    exact houtside.1
  · rw [hpoint]
    omega
  · rw [hpoint]
    exact fun other hother => h.not_has hpositive (happarts other hother)
  · intro hsigma
    have hcapital := congrArg Char.toNat hsigma
    rw [hpoint] at hcapital
    have hvalue : 'Σ'.toNat = 0x3A3 := rfl
    omega
  · simp only [isBlank, hpoint, Bool.or_eq_false_iff, Bool.and_eq_false_iff,
      decide_eq_false_iff_not, beq_eq_false_iff_ne]
    omega

/-- So is what the capital I with a dot and the capital sigma become. -/
theorem isLower_of_mem_unlisted {d : Char} (h : d ∈ ['i', Char.ofNat 0x307, 'ς', 'σ']) :
    IsLower d ∧ isBlank d = false := by
  have hall : ['i', Char.ofNat 0x307, 'ς', 'σ'].all
      (fun d => lowerChar d == [d] && d != 'Σ' && !isBlank d) = true := by decide +kernel
  have hd := List.all_eq_true.mp hall d h
  rw [Bool.and_eq_true, Bool.and_eq_true, beq_iff_eq, bne_iff_ne, Bool.not_eq_true'] at hd
  exact hd

/-- Lower case is in lower case, and has blanks only in place of a blank. -/
theorem of_mem_lowerChar {c d : Char} (hc : c ≠ 'Σ') (hd : d ∈ lowerChar c) :
    IsLower d ∧ (isBlank c = false → isBlank d = false) := by
  rcases lowerChar_cases c with ⟨hascii, h⟩ | ⟨-, h⟩ | ⟨run, hrun, hhas, h⟩ | h
  · obtain rfl : d = c.toLower := by simpa [h] using hd
    exact ⟨isLower_toLower hascii, isBlank_toLower hascii⟩
  · have hmem : d ∈ ['i', Char.ofNat 0x307, 'ς', 'σ'] := by
      rw [h] at hd
      exact List.mem_append_left _ hd
    obtain ⟨hlower, hblank⟩ := isLower_of_mem_unlisted hmem
    exact ⟨hlower, fun _ => hblank⟩
  · obtain rfl : d = Char.ofNat (CaseRun.shifted run c.toNat) := by simpa [h] using hd
    obtain ⟨hlower, hblank⟩ := hhas.lower hrun
    exact ⟨hlower, fun _ => hblank⟩
  · obtain rfl : d = c := by simpa [h] using hd
    exact ⟨⟨h, hc⟩, id⟩

theorem lowerChar_ne_nil (c : Char) : lowerChar c ≠ [] := by
  rcases lowerChar_cases c with ⟨-, h⟩ | ⟨-, h⟩ | ⟨_, -, -, h⟩ | h <;> simp [h]

/-- What stands for the first character of a text in its lower case. -/
theorem lowerAfter_cons (earlier : List Char) (c : Char) (rest : List Char) :
    ∃ image, lowerAfter earlier (c :: rest) = image ++ lowerAfter (c :: earlier) rest ∧
      image ≠ [] ∧ ∀ d ∈ image, IsLower d ∧ (isBlank c = false → isBlank d = false) := by
  refine ⟨_, rfl, ?_, ?_⟩
  · split
    · simp
    · exact lowerChar_ne_nil c
  · split
    · intro d hd
      have hmem : d ∈ ['i', Char.ofNat 0x307, 'ς', 'σ'] := by
        rw [List.mem_singleton] at hd
        rw [hd]
        split <;> simp
      obtain ⟨hlower, hblank⟩ := isLower_of_mem_unlisted hmem
      exact ⟨hlower, fun _ => hblank⟩
    · next hc => exact fun d hd => of_mem_lowerChar hc hd

theorem isLower_of_mem {earlier cs : List Char} {d : Char} (h : d ∈ lowerAfter earlier cs) :
    IsLower d := by
  induction cs generalizing earlier with
  | nil => cases h
  | cons c rest ih =>
    obtain ⟨image, heq, -, himage⟩ := lowerAfter_cons earlier c rest
    rw [heq, List.mem_append] at h
    exact h.elim (fun hd => (himage d hd).1) ih

theorem lowerAfter_of_isLower {cs : List Char} (h : ∀ c ∈ cs, IsLower c) (earlier : List Char) :
    lowerAfter earlier cs = cs := by
  induction cs generalizing earlier with
  | nil => rfl
  | cons c rest ih =>
    obtain ⟨⟨hlower, hsigma⟩, hrest⟩ := List.forall_mem_cons.mp h
    rw [lowerAfter, if_neg hsigma, hlower, ih hrest]
    rfl

/-- Lower case is final. -/
@[simp] theorem lower_lower (s : String) : lower (lower s) = lower s := by
  have hlower : ∀ c ∈ lowerAfter [] s.toList, IsLower c := fun _ => isLower_of_mem
  rw [lower, lower, String.toList_ofList, lowerAfter_of_isLower hlower]

/-- Lower case ends with a blank only where the text does. -/
theorem isBlank_getLast_lowerAfter {cs : List Char}
    (h : ∀ c, cs.getLast? = some c → isBlank c = false) (earlier : List Char) {d : Char}
    (hd : (lowerAfter earlier cs).getLast? = some d) : isBlank d = false := by
  induction cs generalizing earlier with
  | nil => cases hd
  | cons c rest ih =>
    obtain ⟨image, heq, hne, himage⟩ := lowerAfter_cons earlier c rest
    rw [heq] at hd
    cases rest with
    | nil =>
      rw [lowerAfter, List.append_nil] at hd
      exact (himage d (List.mem_of_getLast? hd)).2 (h c rfl)
    | cons c' rest =>
      have hmore : lowerAfter (c :: earlier) (c' :: rest) ≠ [] := by
        obtain ⟨image', heq', hne', -⟩ := lowerAfter_cons (c :: earlier) c' rest
        simp [heq', hne']
      rw [List.getLast?_append_of_ne_nil _ hmore] at hd
      exact ih (fun c hc => h c (by simpa using hc)) _ hd

/-- The lower case of a trimmed text is trimmed. -/
@[simp] theorem trim_lower_trim (s : String) : trim (lower (trim s)) = lower (trim s) := by
  have htrimmed : trimChars (lowerAfter [] (trimChars s.toList)) =
      lowerAfter [] (trimChars s.toList) := by
    refine trimChars_of_ends (fun d hd => ?_) fun d hd => ?_
    · cases hcs : trimChars s.toList with
      | nil =>
        rw [hcs] at hd
        cases hd
      | cons c rest =>
        obtain ⟨image, heq, hne, himage⟩ := lowerAfter_cons [] c rest
        rw [hcs, heq, List.head?_append_of_ne_nil _ hne] at hd
        exact (himage d (List.mem_of_head? hd)).2 (isBlank_head_trimChars (by rw [hcs]; rfl))
    · exact isBlank_getLast_lowerAfter (fun c hc => isBlank_getLast_trimChars hc) [] hd
  rw [trim, lower, trim, String.toList_ofList, String.toList_ofList, htrimmed]

end DashboardCheck.Text
