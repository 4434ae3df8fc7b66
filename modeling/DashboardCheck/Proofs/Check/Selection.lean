import DashboardCheck.Check.Scenario
import DashboardCheck.Proofs.Text.Trimmed
import Mathlib.Data.List.Forall2
import Mathlib.Data.List.Perm.Basic

/-!
# Selecting scenarios

A text spells the name of a scenario if it is that name with blanks around it and hyphens for some
of its underscores. What is selected depends only on which scenarios are spelled: each of them is
there once, in the order in which scenarios run. The first text that spells none ends the selection.
-/
namespace DashboardCheck.Scenario

/-- A character stands for one of a name. -/
def Writes (c d : Char) : Prop := c = d ∨ c = '-' ∧ d = '_'

/-- A text is the name of a scenario between blanks, with hyphens for some underscores. -/
def Spells (text : String) (scenario : Scenario) : Prop :=
  ∃ a core b, (∀ c ∈ a, Text.isBlank c = true) ∧ (∀ c ∈ b, Text.isBlank c = true) ∧
    text.toList = a ++ core ++ b ∧ List.Forall₂ Writes core scenario.name.toList

theorem name_injective {scenario scenario' : Scenario} (h : scenario.name = scenario'.name) :
    scenario = scenario' := by
  revert h
  cases scenario <;> cases scenario' <;> decide

/-- In names there are neither hyphens nor blanks. -/
theorem name_plain (scenario : Scenario) :
    ∀ d ∈ scenario.name.toList, d ≠ '-' ∧ Text.isBlank d = false := by
  have hall : (scenario.name.toList.all fun d => d != '-' && !Text.isBlank d) = true := by
    cases scenario <;> decide
  simpa using hall

theorem map_hyphen_eq_iff {core name : List Char} (h : ∀ d ∈ name, d ≠ '-') :
    (core.map fun c => if c = '-' then '_' else c) = name ↔ List.Forall₂ Writes core name := by
  induction core generalizing name with
  | nil => cases name <;> simp
  | cons c core ih =>
    cases name with
    | nil => simp
    | cons d rest =>
      have hd : d ≠ '-' := h d List.mem_cons_self
      have hchar : (if c = '-' then '_' else c) = d ↔ Writes c d := by
        by_cases hc : c = '-'
        · subst hc
          simp [Writes, hd.symm, eq_comm]
        · simp [Writes, hc]
      rw [List.map_cons, List.cons.injEq, List.forall₂_cons, hchar,
        ih fun d hmem => h d (List.mem_cons_of_mem _ hmem)]

/-- A spelling of a name without blanks has none either. -/
theorem not_blank_of_writes {core name : List Char} (h : List.Forall₂ Writes core name)
    (hname : ∀ d ∈ name, Text.isBlank d = false) : ∀ c ∈ core, Text.isBlank c = false := by
  induction h with
  | nil => simp
  | @cons c d core rest hwrites _ ih =>
    rw [List.forall_mem_cons] at hname ⊢
    refine ⟨?_, ih hname.2⟩
    rcases hwrites with rfl | ⟨rfl, -⟩
    · exact hname.1
    · decide

theorem normalName_eq_iff {text : String} {scenario : Scenario} :
    normalName text = scenario.name ↔ Spells text scenario := by
  have hplain : ∀ d ∈ scenario.name.toList, d ≠ '-' := fun d hd => (scenario.name_plain d hd).1
  have hlook : normalName text = scenario.name ↔
      List.Forall₂ Writes (Text.trimChars text.toList) scenario.name.toList := by
    rw [← map_hyphen_eq_iff hplain, normalName, Text.trim, String.toList_ofList,
      ← String.toList_inj, String.toList_ofList]
  rw [hlook]
  constructor
  · intro hwrites
    obtain ⟨a, b, ha, hb, hsplit⟩ := Text.exists_trimChars_split text.toList
    exact ⟨a, _, b, ha, hb, hsplit, hwrites⟩
  · rintro ⟨a, core, b, ha, hb, hsplit, hwrites⟩
    have hcore : ∀ c ∈ core, Text.isBlank c = false :=
      not_blank_of_writes hwrites fun d hd => (scenario.name_plain d hd).2
    rw [hsplit, Text.trimChars_between ha hb hcore]
    exact hwrites

theorem mem_all (scenario : Scenario) : scenario ∈ all := by
  cases scenario <;> decide

theorem all_nodup : all.Nodup := by decide

theorem ofName?_eq_none_iff (text : String) :
    ofName? text = none ↔ ∀ scenario : Scenario, scenario.name ≠ normalName text := by
  simp [ofName?, mem_all]

theorem ofName?_ne_none_of_name {text : String}
    (h : ∃ scenario : Scenario, scenario.name = normalName text) : ofName? text ≠ none := by
  simpa [ofName?_eq_none_iff] using h

theorem ofName?_eq_none_iff_spells {text : String} :
    ofName? text = none ↔ ∀ scenario, ¬ Spells text scenario := by
  rw [ofName?_eq_none_iff]
  exact forall_congr' fun scenario => not_congr (eq_comm.trans normalName_eq_iff)

theorem ofName?_eq_some_iff {text : String} {scenario : Scenario} :
    ofName? text = some scenario ↔ Spells text scenario := by
  have hfound : ∀ {other}, ofName? text = some other → normalName text = other.name := by
    intro other h
    have hname := List.find?_some h
    simp only [beq_iff_eq] at hname
    exact hname.symm
  rw [← normalName_eq_iff]
  refine ⟨hfound, fun h => ?_⟩
  cases hlook : ofName? text with
  | none => exact absurd (normalName_eq_iff.mp h) (ofName?_eq_none_iff_spells.mp hlook scenario)
  | some other => rw [name_injective ((hfound hlook).symm.trans h)]

theorem ofName?_ne_none_iff {text : String} :
    ofName? text ≠ none ↔ ∃ scenario, Spells text scenario := by
  simp [Option.ne_none_iff_exists', ofName?_eq_some_iff]

theorem ofNames_eq_ok_iff {names : List String} {wanted : List Scenario} :
    ofNames names = .ok wanted ↔ names.map ofName? = wanted.map some := by
  induction names generalizing wanted with
  | nil => cases wanted <;> simp [ofNames]
  | cons text rest ih =>
    cases hlook : ofName? text with
    | none => cases wanted <;> simp [ofNames, hlook]
    | some scenario =>
      cases wanted with
      | nil => cases hrest : ofNames rest <;> simp [ofNames, hlook, hrest, Except.map]
      | cons first more =>
        rw [List.map_cons, List.map_cons, List.cons.injEq, hlook, ← ih]
        cases hrest : ofNames rest <;> simp [ofNames, hlook, hrest, Except.map]

/-- A name that spells no scenario, with none before it. -/
def FirstUnknown (names : List String) (text : String) : Prop :=
  ∃ before after, names = before ++ text :: after ∧
    (∀ other ∈ before, ∃ scenario, Spells other scenario) ∧ ∀ scenario, ¬ Spells text scenario

/-- The first text that names no scenario is at the head, or the head names one. -/
theorem firstUnknown_cons {first text : String} {rest : List String} :
    FirstUnknown (first :: rest) text ↔
      (∀ scenario, ¬ Spells first scenario) ∧ text = first ∨
        (∃ scenario, Spells first scenario) ∧ FirstUnknown rest text := by
  constructor
  · rintro ⟨before, after, hsplit, hbefore, hnone⟩
    cases before with
    | nil =>
      cases hsplit
      exact .inl ⟨hnone, rfl⟩
    | cons other before =>
      cases hsplit
      obtain ⟨hfirst, hrest⟩ := List.forall_mem_cons.mp hbefore
      exact .inr ⟨hfirst, before, after, rfl, hrest, hnone⟩
  · rintro (⟨hnone, rfl⟩ | ⟨hfirst, before, after, rfl, hbefore, hnone⟩)
    · exact ⟨[], rest, rfl, by simp, hnone⟩
    · exact ⟨first :: before, after, rfl, List.forall_mem_cons.mpr ⟨hfirst, hbefore⟩, hnone⟩

def unknown (text : String) : CheckError :=
  .unknownScenario text (Text.join ", " (all.map name))

theorem ofNames_eq_error_iff {names : List String} {e : CheckError} :
    ofNames names = .error e ↔ ∃ text, FirstUnknown names text ∧ e = unknown text := by
  induction names with
  | nil => simp [ofNames, FirstUnknown]
  | cons first rest ih =>
    cases hlook : ofName? first with
    | none =>
      have hnone : ∀ scenario, ¬ Spells first scenario := ofName?_eq_none_iff_spells.mp hlook
      have hstep : ofNames (first :: rest) = .error (unknown first) := by
        simp only [ofNames, hlook, unknown]
      simp [hstep, firstUnknown_cons, hnone, eq_comm]
    | some scenario =>
      have hfirst : ∃ scenario, Spells first scenario := ⟨scenario, ofName?_eq_some_iff.mp hlook⟩
      have hstep : ofNames (first :: rest) = .error e ↔ ofNames rest = .error e := by
        cases hrest : ofNames rest <;> simp [ofNames, hlook, hrest, Except.map]
      simp only [hstep, ih, firstUnknown_cons, hfirst, ← not_exists, not_true, false_and,
        true_and, false_or]

/-- What names select: the scenarios that they spell, in the order in which scenarios run; all if
there are no names. -/
structure Selected (names : List String) (selected : List Scenario) : Prop where
  ordered : selected.Sublist all
  mem_iff : ∀ scenario, scenario ∈ selected ↔ names = [] ∨ ∃ text ∈ names, Spells text scenario

theorem Selected.nodup {names : List String} {selected : List Scenario}
    (h : Selected names selected) : selected.Nodup :=
  h.ordered.nodup all_nodup

/-- Names that spell the same scenarios select the same. -/
theorem Selected.unique {names names' : List String} {selected selected' : List Scenario}
    (h : Selected names selected) (h' : Selected names' selected')
    (hsame : ∀ scenario, scenario ∈ selected ↔ scenario ∈ selected') : selected = selected' := by
  have hperm : selected.Perm selected' := (List.perm_ext_iff_of_nodup h.nodup h'.nodup).mpr hsame
  exact (List.Nodup.perm_iff_eq_of_sublist all_nodup h.ordered h'.ordered).mp hperm

/-- A selection is made only if every text names a scenario. -/
theorem select_ok {names : List String} {selected : List Scenario}
    (h : select names = .ok selected) :
    (∀ text ∈ names, ∃ scenario, Spells text scenario) ∧ Selected names selected := by
  rw [select] at h
  split at h
  · next hempty =>
    obtain rfl := List.isEmpty_iff.mp hempty
    cases h
    exact ⟨by simp, List.Sublist.refl _, by simp [mem_all]⟩
  · next hne =>
    cases hnames : ofNames names with
    | error e =>
      rw [hnames] at h
      cases h
    | ok wanted =>
      rw [hnames] at h
      cases h
      have hmap : names.map ofName? = wanted.map some := ofNames_eq_ok_iff.mp hnames
      have hwanted : ∀ scenario, scenario ∈ wanted ↔ ∃ text ∈ names, Spells text scenario := by
        intro scenario
        have hmem : some scenario ∈ names.map ofName? ↔ scenario ∈ wanted := by simp [hmap]
        rw [← hmem, List.mem_map]
        simp only [ofName?_eq_some_iff]
      refine ⟨fun text htext => ?_, List.filter_sublist, fun scenario => ?_⟩
      · have hlook : ofName? text ∈ wanted.map some := hmap ▸ List.mem_map_of_mem htext
        obtain ⟨scenario, -, hscenario⟩ := List.mem_map.mp hlook
        exact ⟨scenario, ofName?_eq_some_iff.mp hscenario.symm⟩
      · rw [List.mem_filter, List.contains_iff_mem, hwanted]
        have hnil : names ≠ [] := by simpa using hne
        simp [mem_all, hnil]

theorem select_eq_error_iff {names : List String} {e : CheckError} :
    select names = .error e ↔ ∃ text, FirstUnknown names text ∧ e = unknown text := by
  have hnames : select names = .error e ↔ ofNames names = .error e := by
    cases names with
    | nil => simp [select, ofNames]
    | cons text rest =>
      rw [select, if_neg (by simp)]
      cases ofNames (text :: rest) <;> simp [Except.map]
  rw [hnames, ofNames_eq_error_iff]

theorem exists_select_iff {names : List String} :
    (∃ selected, select names = .ok selected) ↔
      ∀ text ∈ names, ∃ scenario, Spells text scenario := by
  constructor
  · rintro ⟨selected, hselect⟩
    exact (select_ok hselect).1
  · intro h
    cases hselect : select names with
    | ok selected => exact ⟨selected, rfl⟩
    | error e =>
      obtain ⟨text, ⟨before, after, rfl, -, hnone⟩, -⟩ := select_eq_error_iff.mp hselect
      obtain ⟨scenario, hscenario⟩ := h text (by simp)
      exact absurd hscenario (hnone scenario)

/-- Only the set of scenarios that are spelled matters. -/
theorem select_same {names names' : List String} {selected : List Scenario}
    (hselect : select names = .ok selected)
    (hknown : ∀ text ∈ names', ∃ scenario, Spells text scenario)
    (hsame : ∀ scenario, (∃ text ∈ names, Spells text scenario) ↔
      ∃ text ∈ names', Spells text scenario) : select names' = .ok selected := by
  obtain ⟨selected', hselect'⟩ := exists_select_iff.mpr hknown
  have hnil : ∀ {texts : List String}, (∀ text ∈ texts, ∃ scenario, Spells text scenario) →
      (texts = [] ↔ ∀ scenario, ¬ ∃ text ∈ texts, Spells text scenario) := by
    intro texts htexts
    cases texts with
    | nil => simp
    | cons text rest =>
      obtain ⟨scenario, hscenario⟩ := htexts text List.mem_cons_self
      refine iff_of_false (by simp) fun hnone => ?_
      exact hnone scenario ⟨text, List.mem_cons_self, hscenario⟩
  obtain ⟨hknown₀, h⟩ := select_ok hselect
  obtain ⟨-, h'⟩ := select_ok hselect'
  rw [hselect', h'.unique h fun scenario => ?_]
  rw [h.mem_iff, h'.mem_iff, hnil hknown₀, hnil hknown]
  simp only [hsame]

theorem select_known {names : List String} (h : ∀ text ∈ names, ofName? text ≠ none) :
    ∃ selected, select names = .ok selected :=
  exists_select_iff.mpr fun text htext => ofName?_ne_none_iff.mp (h text htext)

/-- A name that is none ends the selection with an error that says so. -/
theorem select_unknown {names : List String} (h : ∃ text ∈ names, ofName? text = none) :
    ∃ text known, select names = .error (.unknownScenario text known) := by
  cases hselect : select names with
  | ok selected =>
    obtain ⟨text, htext, hnone⟩ := h
    exact absurd hnone (ofName?_ne_none_iff.mpr ((select_ok hselect).1 text htext))
  | error e =>
    obtain ⟨text, -, rfl⟩ := select_eq_error_iff.mp hselect
    exact ⟨text, _, rfl⟩

end DashboardCheck.Scenario
