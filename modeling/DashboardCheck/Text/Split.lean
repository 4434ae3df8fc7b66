/-!
Cutting a text at a separator. Cutting at the first or last occurrence gives the two sides; a
text without the separator is not cut. The main statements rebuild the text from the sides.
-/
namespace DashboardCheck.Text

def cutFirst (sep : Char) : List Char → Option (List Char × List Char)
  | [] => none
  | c :: rest =>
    if c = sep then some ([], rest)
    else (cutFirst sep rest).map fun sides => (c :: sides.1, sides.2)

/-- The sides of the last `sep`, if there is one. -/
def cutLast (sep : Char) (cs : List Char) : Option (List Char × List Char) :=
  (cutFirst sep cs.reverse).map fun sides => (sides.2.reverse, sides.1.reverse)

/-- The part before the first `sep`, or all of it. -/
def before (sep : Char) (cs : List Char) : List Char :=
  cs.takeWhile (· != sep)

/-- The pieces between all occurrences of `sep`; one piece more than there are separators. -/
def pieces (sep : Char) : List Char → List (List Char)
  | [] => [[]]
  | c :: rest =>
    if c = sep then [] :: pieces sep rest
    else match pieces sep rest with
      | [] => [[c]]
      | piece :: more => (c :: piece) :: more

def stripStart : List Char → List Char → Option (List Char)
  | [], cs => some cs
  | _ :: _, [] => none
  | p :: start, c :: cs => if p = c then stripStart start cs else none

/-- Whether `needle` stands somewhere in the text without a gap. -/
def occursIn (needle : List Char) : List Char → Bool
  | [] => needle.isEmpty
  | c :: rest => needle.isPrefixOf (c :: rest) || occursIn needle rest

def join (sep : String) (parts : List String) : String :=
  String.intercalate sep parts

theorem cutFirst_eq_some {sep : Char} {cs a b : List Char} (h : cutFirst sep cs = some (a, b)) :
    cs = a ++ sep :: b ∧ sep ∉ a := by
  induction cs generalizing a with
  | nil => simp [cutFirst] at h
  | cons c rest ih =>
    by_cases hc : c = sep
    · simp only [cutFirst, if_pos hc, Option.some.injEq, Prod.mk.injEq] at h
      obtain ⟨rfl, rfl⟩ := h
      simp [hc]
    · simp only [cutFirst, if_neg hc, Option.map_eq_some_iff] at h
      obtain ⟨⟨a', b'⟩, hcut, hpair⟩ := h
      simp only [Prod.mk.injEq] at hpair
      obtain ⟨rfl, rfl⟩ := hpair
      obtain ⟨rfl, hnot⟩ := ih hcut
      simp [hnot, Ne.symm hc]

theorem cutFirst_append {sep : Char} {a : List Char} (b : List Char) (h : sep ∉ a) :
    cutFirst sep (a ++ sep :: b) = some (a, b) := by
  induction a with
  | nil => simp [cutFirst]
  | cons c rest ih =>
    simp only [List.mem_cons, not_or] at h
    simp [cutFirst, Ne.symm h.1, ih h.2]

theorem cutFirst_eq_none {sep : Char} {cs : List Char} : cutFirst sep cs = none ↔ sep ∉ cs := by
  induction cs with
  | nil => simp [cutFirst]
  | cons c rest ih =>
    by_cases hc : c = sep
    · simp [cutFirst, hc]
    · simp [cutFirst, hc, ih, Ne.symm hc]

theorem before_append {sep : Char} {cs : List Char} (h : sep ∉ cs) (rest : List Char) :
    before sep (cs ++ rest) = cs ++ before sep rest := by
  apply List.takeWhile_append_of_pos
  intro c hc
  simpa using fun hsep : c = sep => h (hsep ▸ hc)

theorem stripStart_append (start cs : List Char) : stripStart start (start ++ cs) = some cs := by
  induction start with
  | nil => rfl
  | cons p start ih => simp [stripStart, ih]

theorem eq_append_of_stripStart {start cs rest : List Char} (h : stripStart start cs = some rest) :
    cs = start ++ rest := by
  induction start generalizing cs with
  | nil => simpa [stripStart] using h
  | cons p start ih =>
    cases cs with
    | nil => simp [stripStart] at h
    | cons c cs =>
      by_cases hc : p = c
      · have hrest : stripStart start cs = some rest := by simpa [stripStart, hc] using h
        rw [hc, ih hrest, List.cons_append]
      · simp [stripStart, hc] at h

theorem stripStart_eq_none_iff {start cs : List Char} :
    stripStart start cs = none ↔ ¬ start <+: cs := by
  induction start generalizing cs with
  | nil => simp [stripStart]
  | cons p start ih =>
    cases cs with
    | nil => simp [stripStart]
    | cons c cs =>
      by_cases h : p = c
      · simp [stripStart, h, ih]
      · simp [stripStart, h]

/-- Texts that are joined stand in the joined text without a gap. -/
theorem isInfix_join {part : String} {parts : List String} (h : part ∈ parts) (sep : String) :
    part.toList <:+: (join sep parts).toList := by
  rw [join, String.toList_intercalate]
  induction parts with
  | nil => simp at h
  | cons head rest ih =>
    cases rest with
    | nil =>
      obtain rfl : part = head := by simpa using h
      simp
    | cons next more =>
      rw [List.map_cons, List.map_cons, List.intercalate_cons_cons, ← List.map_cons]
      rcases List.mem_cons.mp h with rfl | hrest
      · exact ((List.prefix_append _ _).trans (List.prefix_append _ _)).isInfix
      · exact (ih hrest).trans (List.suffix_append _ _).isInfix

end DashboardCheck.Text
