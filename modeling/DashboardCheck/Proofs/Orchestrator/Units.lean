import DashboardCheck.Proofs.Orchestrator.Status

/-!
# The units of an application

Units are put in the order of their numbers, and units that have one place in that order stay as
they were found. Of equal neighbours one is kept. So a unit that is listed twice stays twice exactly
if another one of the same place was found in between; all else about the list of units is as one
would have it.
-/
namespace DashboardCheck

section Sorting

variable {α : Type} {le : α → α → Bool} {p : α → Bool} {l : List α}

/-- Sorting leaves the order among entries that have one place. -/
theorem filter_mergeSort (htrans : ∀ a b c, le a b = true → le b c = true → le a c = true)
    (htotal : ∀ a b, (le a b || le b a) = true)
    (hplace : ∀ a b, p a = true → p b = true → le a b = true) :
    (l.mergeSort le).filter p = l.filter p := by
  have hordered : (l.filter p).Pairwise fun a b => le a b = true := by
    refine List.pairwise_of_forall_mem_list fun a ha b hb => ?_
    exact hplace a b (List.mem_filter.mp ha).2 (List.mem_filter.mp hb).2
  have hkept : (l.filter p).Sublist ((l.mergeSort le).filter p) := by
    have hsub := (List.sublist_mergeSort htrans htotal hordered List.filter_sublist).filter p
    simpa only [List.filter_filter, Bool.and_self] using hsub
  have hlength : (l.filter p).length = ((l.mergeSort le).filter p).length :=
    ((List.mergeSort_perm l le).filter p).length_eq.symm
  exact (hkept.eq_of_length hlength).symm

end Sorting

namespace ModelStatus

theorem mem_dropRepeats {name : String} {l : List String} : name ∈ dropRepeats l ↔ name ∈ l := by
  induction l using dropRepeats.induct with
  | case1 => simp [dropRepeats]
  | case2 a => simp [dropRepeats]
  | case3 a rest ih => simp [dropRepeats, ih]
  | case4 a b rest hne ih => simp [dropRepeats, hne, ih]

theorem dropRepeats_sublist (l : List String) : (dropRepeats l).Sublist l := by
  induction l using dropRepeats.induct with
  | case1 => simp [dropRepeats]
  | case2 a => simp [dropRepeats]
  | case3 a rest ih =>
    rw [dropRepeats, if_pos rfl]
    exact ih.cons a
  | case4 a b rest hne ih =>
    rw [dropRepeats, if_neg hne]
    exact ih.cons_cons a

/-- A name stays twice exactly if another stands between two entries of it. -/
theorem nodup_dropRepeats_iff (l : List String) :
    (dropRepeats l).Nodup ↔ ¬ ∃ a b, a ≠ b ∧ [a, b, a].Sublist l := by
  induction l using dropRepeats.induct with
  | case1 => simp [dropRepeats]
  | case2 a =>
    refine iff_of_true (by simp [dropRepeats]) ?_
    rintro ⟨x, y, -, hsub⟩
    exact absurd hsub.length_le (by simp)
  | case3 a rest ih =>
    rw [dropRepeats, if_pos rfl, ih]
    refine not_congr ⟨?_, ?_⟩
    · rintro ⟨x, y, hne, hsub⟩
      exact ⟨x, y, hne, hsub.cons a⟩
    · rintro ⟨x, y, hne, hsub⟩
      refine ⟨x, y, hne, ?_⟩
      cases hsub with
      | cons _ h => exact h
      | cons_cons _ h =>
        cases h with
        | cons _ h => exact h.cons_cons a
        | cons_cons _ _ => exact absurd rfl hne
  | case4 a b rest hne ih =>
    rw [dropRepeats, if_neg hne, List.nodup_cons, mem_dropRepeats, ih, ← not_or]
    refine not_congr ⟨?_, ?_⟩
    · rintro (hmem | ⟨x, y, hxy, hsub⟩)
      · have hrest : a ∈ rest := (List.mem_cons.mp hmem).resolve_left hne
        exact ⟨a, b, hne, ((List.singleton_sublist.mpr hrest).cons_cons b).cons_cons a⟩
      · exact ⟨x, y, hxy, hsub.cons a⟩
    · rintro ⟨x, y, hxy, hsub⟩
      cases hsub with
      | cons _ h => exact .inr ⟨x, y, hxy, h⟩
      | cons_cons _ h => exact .inl (h.subset (by simp))

/-- The part of a unit's name before the last slash, or all of it. -/
def partOf (unit : String) : String :=
  match Text.cutLast '/' unit.toList with
  | some (part, _) => String.ofList part
  | none => unit

/-- The number of 64 bits behind the last slash, if there is one. -/
def numberOf? (unit : String) : Option Nat :=
  (Text.cutLast '/' unit.toList).bind fun sides => Number.natural? Number.max64 sides.2

/-- A unit may stand before another: the part before the last slash decides, then the number. A unit
without a number that can be read comes last, beside one that has the largest number. -/
def MayPrecede (a b : String) : Prop :=
  partOf a < partOf b ∨ partOf a = partOf b ∧
    match numberOf? a, numberOf? b with
    | some m, some n => m ≤ n
    | _, none => True
    | none, some n => n = Number.max64

theorem unitKey_eq (unit : String) :
    unitKey unit = (partOf unit, (numberOf? unit).getD Number.max64) := by
  rw [unitKey, partOf, numberOf?]
  cases Text.cutLast '/' unit.toList <;> rfl

theorem numberOf?_le {unit : String} {n : Nat} (h : numberOf? unit = some n) :
    n ≤ Number.max64 := by
  obtain ⟨sides, -, hn⟩ := Option.bind_eq_some_iff.mp h
  simpa using (Option.filter_eq_some_iff.mp hn).2

theorem unitLe_iff {a b : String} : unitLe a b = true ↔ MayPrecede a b := by
  have hkey : unitLe a b = true ↔ partOf a < partOf b ∨ partOf a = partOf b ∧
      (numberOf? a).getD Number.max64 ≤ (numberOf? b).getD Number.max64 := by
    simp [unitLe, unitKey_eq]
  rw [hkey, MayPrecede]
  refine or_congr_right (and_congr_right fun _ => ?_)
  cases ha : numberOf? a with
  | none =>
    cases hb : numberOf? b with
    | none => simp
    | some n =>
      have hn := numberOf?_le hb
      simp only [Option.getD_none, Option.getD_some]
      omega
  | some m =>
    cases hb : numberOf? b with
    | none => simpa using numberOf?_le ha
    | some n => simp

theorem unitLe_trans (a b c : String) (hab : unitLe a b = true) (hbc : unitLe b c = true) :
    unitLe a c = true := by
  simp only [unitLe, Bool.or_eq_true, decide_eq_true_eq, Bool.and_eq_true, beq_iff_eq] at *
  rcases hab with hab | ⟨hab, hm⟩
  · rcases hbc with hbc | ⟨hbc, -⟩
    · exact .inl (String.lt_trans hab hbc)
    · exact .inl (hbc ▸ hab)
  · rcases hbc with hbc | ⟨hbc, hn⟩
    · exact .inl (hab ▸ hbc)
    · exact .inr ⟨hab.trans hbc, Nat.le_trans hm hn⟩

theorem unitLe_total (a b : String) : (unitLe a b || unitLe b a) = true := by
  simp only [unitLe, Bool.or_eq_true, decide_eq_true_eq, Bool.and_eq_true, beq_iff_eq]
  by_cases hsame : (unitKey a).1 = (unitKey b).1
  · rcases Nat.le_total (unitKey a).2 (unitKey b).2 with hle | hle
    · exact .inl (.inr ⟨hsame, hle⟩)
    · exact .inr (.inr ⟨hsame.symm, hle⟩)
  · by_cases hlt : (unitKey a).1 < (unitKey b).1
    · exact .inl (.inl hlt)
    · exact .inr (.inl (Dict.lt_of_not_lt_of_ne hlt hsame))

/-- Two names that have one place, in any list, keep their order when it is sorted. -/
theorem sublist_mergeSort_iff {a b : String} {l : List String} (hab : unitLe a b = true)
    (hba : unitLe b a = true) : [a, b, a].Sublist (l.mergeSort unitLe) ↔ [a, b, a].Sublist l := by
  let p (name : String) : Bool := unitLe a name && unitLe name a
  have haa : unitLe a a = true := by simpa using unitLe_total a a
  have hfilter : (l.mergeSort unitLe).filter p = l.filter p := by
    refine filter_mergeSort unitLe_trans unitLe_total fun x y hx hy => ?_
    simp only [p, Bool.and_eq_true] at hx hy
    exact unitLe_trans x a y hx.2 hy.1
  have hall : [a, b, a].filter p = [a, b, a] := by simp [p, haa, hab, hba]
  have hplaced : ∀ l' : List String, [a, b, a].Sublist l' ↔ [a, b, a].Sublist (l'.filter p) := by
    intro l'
    constructor
    · intro h
      rw [← hall]
      exact h.filter p
    · exact fun h => h.trans List.filter_sublist
  rw [hplaced, hfilter, ← hplaced]

/-- In the list of units a name occurs twice exactly if it was found twice with another of the same
place in between. -/
theorem nodup_units_iff (l : List String) :
    (dropRepeats (l.mergeSort unitLe)).Nodup ↔
      ¬ ∃ a b, a ≠ b ∧ MayPrecede a b ∧ MayPrecede b a ∧ [a, b, a].Sublist l := by
  rw [nodup_dropRepeats_iff]
  refine not_congr ⟨?_, ?_⟩
  · rintro ⟨a, b, hne, hsub⟩
    have hsorted := List.Pairwise.sublist hsub (List.pairwise_mergeSort unitLe_trans unitLe_total l)
    obtain ⟨hab, hba⟩ : unitLe a b = true ∧ unitLe b a = true := by
      simp only [List.pairwise_cons, List.mem_cons, List.not_mem_nil, or_false] at hsorted
      exact ⟨hsorted.1 b (.inl rfl), hsorted.2.1 a rfl⟩
    exact ⟨a, b, hne, unitLe_iff.mp hab, unitLe_iff.mp hba, (sublist_mergeSort_iff hab hba).mp hsub⟩
  · rintro ⟨a, b, hne, hab, hba, hsub⟩
    exact ⟨a, b, hne, (sublist_mergeSort_iff (unitLe_iff.mpr hab) (unitLe_iff.mpr hba)).mpr hsub⟩

/-- An application lists this unit as its own. -/
def Owns (s : ModelStatus) (app unit : String) : Prop :=
  ∃ found, s.applications.get? app = some found ∧ unit ∈ found.units.names

/-- A unit of this application, by its name, accompanies another unit. -/
def Accompanies (s : ModelStatus) (app unit : String) : Prop :=
  (app ++ "/").toList <+: unit.toList ∧
    ∃ entry ∈ s.applications, ∃ principal ∈ entry.2.units, unit ∈ principal.2.subordinates.names

/-- The units of an application are its own if it has any, and otherwise those that accompany
others. -/
def HasUnit (s : ModelStatus) (app unit : String) : Prop :=
  s.Owns app unit ∨ (∀ own, ¬ s.Owns app own) ∧ s.Accompanies app unit

/-- Of two units that have one place, one is listed before and after the other. -/
def Interleaves (s : ModelStatus) (app : String) : Prop :=
  (∀ own, ¬ s.Owns app own) ∧ ∃ a b, a ≠ b ∧ MayPrecede a b ∧ MayPrecede b a ∧
    s.Accompanies app a ∧ s.Accompanies app b ∧ [a, b, a].Sublist s.subordinateNames

variable {s : ModelStatus} {app : String}

theorem units_unknown (h : app ∉ s.applicationNames) :
    s.units app = .error (.applicationNotFound app) := by
  rw [units, application, Dict.get?_eq_none_iff.mpr h]
  rfl

/-- An application with units of its own lists these, in order, without neighbours that repeat. -/
theorem units_own {found : ApplicationStatus} (hfound : s.applications.get? app = some found)
    (hown : found.units ≠ []) :
    s.units app = .ok (dropRepeats (found.units.names.mergeSort unitLe)) := by
  have hsome : found.units.names.isEmpty = false := by simpa [Dict.names] using hown
  simp only [units, application, hfound, bind, Except.bind, hsome]
  rfl

/-- The units that accompany others, of one application, in the order in which they are listed. -/
def companions (s : ModelStatus) (app : String) : List String :=
  s.subordinateNames.filter fun name => (app ++ "/").toList.isPrefixOf name.toList

/-- An application without any lists the units of its name that accompany others, in order, without
neighbours that repeat. -/
theorem units_companions {found : ApplicationStatus}
    (hfound : s.applications.get? app = some found) (hown : found.units = []) :
    s.units app = .ok (dropRepeats ((s.companions app).mergeSort unitLe)) := by
  have hnone : found.units.names.isEmpty = true := by simp [Dict.names, hown]
  simp only [units, application, hfound, bind, Except.bind, hnone]
  rfl

theorem mem_companions {unit : String} : unit ∈ s.companions app ↔ s.Accompanies app unit := by
  rw [companions, List.mem_filter, Accompanies, List.isPrefixOf_iff_prefix, and_comm,
    subordinateNames]
  simp only [List.mem_flatMap, Prod.exists]

/-- Which units come in between shows in the list of one application. -/
theorem interleaves_iff (hnone : ∀ own, ¬ s.Owns app own) :
    s.Interleaves app ↔ ∃ a b, a ≠ b ∧ MayPrecede a b ∧ MayPrecede b a ∧
      [a, b, a].Sublist (s.companions app) := by
  constructor
  · rintro ⟨-, a, b, hne, hab, hba, ha, hb, hsub⟩
    refine ⟨a, b, hne, hab, hba, ?_⟩
    have hfilter := hsub.filter fun name => (app ++ "/").toList.isPrefixOf name.toList
    rwa [List.filter_eq_self.mpr] at hfilter
    intro name hname
    rw [List.isPrefixOf_iff_prefix]
    have hcases : name = a ∨ name = b := by simpa [or_comm] using hname
    rcases hcases with rfl | rfl
    · exact ha.1
    · exact hb.1
  · rintro ⟨a, b, hne, hab, hba, hsub⟩
    have ha : a ∈ s.companions app := hsub.subset (by simp)
    have hb : b ∈ s.companions app := hsub.subset (by simp)
    exact ⟨hnone, a, b, hne, hab, hba, mem_companions.mp ha, mem_companions.mp hb,
      hsub.trans List.filter_sublist⟩

/-- The sorted list has what was found, in order. -/
theorem mem_and_pairwise (l : List String) :
    (∀ unit, unit ∈ dropRepeats (l.mergeSort unitLe) ↔ unit ∈ l) ∧
      (dropRepeats (l.mergeSort unitLe)).Pairwise MayPrecede := by
  refine ⟨fun unit => by rw [mem_dropRepeats, List.mem_mergeSort], ?_⟩
  have hsorted := List.Pairwise.sublist (dropRepeats_sublist (l.mergeSort unitLe))
    (List.pairwise_mergeSort unitLe_trans unitLe_total l)
  exact hsorted.imp unitLe_iff.mp

theorem owns_iff {found : ApplicationStatus} (hfound : s.applications.get? app = some found)
    (unit : String) : s.Owns app unit ↔ unit ∈ found.units.names := by
  simp [Owns, hfound]

/-- The units of an application that is there are listed without others, each where it belongs, and
each once unless the status lists one before and after another of its place. -/
theorem units_listed (s : ModelStatus) (hs : s.Ordered) (app : String) :
    (app ∉ s.applicationNames → s.units app = .error (.applicationNotFound app)) ∧
    (app ∈ s.applicationNames → ∃ units, s.units app = .ok units ∧
      (∀ unit, unit ∈ units ↔ s.HasUnit app unit) ∧ units.Pairwise MayPrecede ∧
      (units.Nodup ↔ ¬ s.Interleaves app)) := by
  refine ⟨units_unknown, fun happ => ?_⟩
  obtain ⟨found, hfound⟩ := Dict.exists_get?_of_mem_names happ
  have howns := owns_iff hfound
  by_cases hown : found.units = []
  · have hnone : ∀ unit, ¬ s.Owns app unit := by
      intro unit
      rw [howns, hown]
      exact List.not_mem_nil
    obtain ⟨hmem, hsorted⟩ := mem_and_pairwise (s.companions app)
    refine ⟨_, units_companions hfound hown, fun unit => ?_, hsorted, ?_⟩
    · rw [hmem, mem_companions, HasUnit]
      simp [hnone]
    · rw [nodup_units_iff, interleaves_iff hnone]
  · obtain ⟨hmem, hsorted⟩ := mem_and_pairwise found.units.names
    have hsome : ∃ own, s.Owns app own := by
      obtain ⟨entry, hentry⟩ := List.exists_mem_of_ne_nil _ hown
      exact ⟨entry.1, (howns entry.1).mpr (List.mem_map_of_mem hentry)⟩
    refine ⟨_, units_own hfound hown, fun unit => ?_, hsorted, ?_⟩
    · rw [hmem, ← howns, HasUnit]
      exact ⟨.inl, fun h => h.elim id fun hnone => absurd hsome (by simpa using hnone.1)⟩
    · refine iff_of_true ?_ fun h => hsome.elim h.1
      have hnodup : found.units.names.Nodup :=
        (hs.each (app, found) (Dict.mem_of_get? hfound)).units.nodup
      have hsort : (found.units.names.mergeSort unitLe).Nodup :=
        (List.mergeSort_perm _ _).nodup_iff.mpr hnodup
      exact hsort.sublist (dropRepeats_sublist _)

/-- Two units whose names do not ascend as their numbers do. -/
def tenAndNine : ApplicationStatus :=
  ⟨none, none, [("a/10", .mk none none []), ("a/9", .mk none none [])]⟩

def numbered : ModelStatus := ⟨[("a", tenAndNine)]⟩

/-- Units are listed by number, not by text: the tenth stands behind the second. -/
theorem units_listed_numbered :
    numbered.Ordered ∧ numbered.units "a" = .ok ["a/9", "a/10"] ∧
      ["a/9", "a/10"].Pairwise MayPrecede ∧ ¬ numbered.Interleaves "a" := by
  have hordered : numbered.Ordered := by
    have hunits : ["a/10", "a/9"].Pairwise (· < ·) := by decide
    refine ⟨List.pairwise_singleton _ _, fun entry hentry => ?_⟩
    obtain rfl := List.mem_singleton.mp hentry
    refine ⟨hunits, fun unit hunit => ?_⟩
    simp only [tenAndNine, List.mem_cons, List.not_mem_nil, or_false] at hunit
    rcases hunit with rfl | rfl <;> exact List.Pairwise.nil
  have hlate : unitLe "a/10" "a/9" = false := by decide +kernel
  have hsort : dropRepeats (["a/10", "a/9"].mergeSort unitLe) = ["a/9", "a/10"] := by
    simp [List.mergeSort, List.MergeSort.Internal.splitInTwo, hlate, dropRepeats]
  have hfound : numbered.applications.get? "a" = some tenAndNine := rfl
  have hunits : numbered.units "a" = .ok ["a/9", "a/10"] := by
    rw [← hsort]
    exact units_own hfound (List.cons_ne_nil _ _)
  obtain ⟨units, hlisted, -, hsorted, honce⟩ :=
    (units_listed numbered hordered "a").2 (by decide)
  obtain rfl : ["a/9", "a/10"] = units := Except.ok.inj (hunits.symm.trans hlisted)
  exact ⟨hordered, hunits, hsorted, honce.mp (by decide)⟩

def interleavedStatus : String :=
  "\x7b\"applications\": \x7b\"a\": \x7b\x7d, \"p\": \x7b\"units\": \x7b" ++
    "\"p/0\": \x7b\"subordinates\": \x7b\"a/01\": \x7b\x7d, \"a/1\": \x7b\x7d\x7d\x7d, " ++
    "\"p/1\": \x7b\"subordinates\": \x7b\"a/01\": \x7b\x7d, \"a/1\": \x7b\x7d\x7d\x7d" ++
    "\x7d\x7d\x7d\x7d"

/-- Neither of them is next to itself in the list, so both are listed twice. -/
theorem companions_listed_twice :
    ∃ s, parse interleavedStatus = .ok s ∧ "a" ∈ s.applicationNames ∧
      s.units "a" = .ok ["a/01", "a/1", "a/01", "a/1"] ∧
      ¬ ["a/01", "a/1", "a/01", "a/1"].Nodup := by
  have hread : ((parse interleavedStatus).toOption.map fun s =>
      (s.companions "a", (s.applications.get? "a").map fun found => found.units.names)) =
        some (["a/01", "a/1", "a/01", "a/1"], some []) := by decide +kernel
  obtain ⟨s, hparse, hfound⟩ := Option.map_eq_some_iff.mp hread
  obtain ⟨hcompanions, happ⟩ := Prod.mk.inj hfound
  obtain ⟨found, happ, hown⟩ := Option.map_eq_some_iff.mp happ
  have hunits := units_companions happ (List.map_eq_nil_iff.mp hown)
  -- the two names have one place, so the list is in order as it stands
  rw [hcompanions, List.mergeSort_of_pairwise (by decide)] at hunits
  have hknown : "a" ∈ s.applicationNames :=
    List.mem_map.mpr ⟨_, Dict.mem_of_get? happ, rfl⟩
  refine ⟨s, ?_, hknown, hunits, by decide⟩
  cases hresult : parse interleavedStatus with
  | error e => simp [hresult, Except.toOption] at hparse
  | ok result =>
    rw [hresult] at hparse
    exact congrArg Except.ok (Option.some.inj hparse)

end ModelStatus

end DashboardCheck
