import DashboardCheck.Orchestrator.Mock
import DashboardCheck.Proofs.Number.Digits
import DashboardCheck.Proofs.Orchestrator.Units
import Mathlib.Data.List.Perm.Basic
import Mathlib.Data.List.Range

/-!
# Units that are numbered

The units of an application are named by it, a slash and their number from 0 on. The last slash
tells the parts of a name apart, so no name belongs to two applications, even where these have
slashes in their own names; and putting such units in order gives them in the order of their
numbers.
-/
namespace DashboardCheck

theorem Text.cutLast_append {sep : Char} (a : List Char) {b : List Char} (h : sep ∉ b) :
    Text.cutLast sep (a ++ sep :: b) = some (a, b) := by
  have hreverse : (a ++ sep :: b).reverse = b.reverse ++ sep :: a.reverse := by simp
  rw [cutLast, hreverse, cutFirst_append _ (by simpa using h)]
  simp

/-- A number that is small enough is read back. -/
theorem Number.natural?_digitsOf {limit n : Nat} (h : n ≤ limit) :
    natural? limit (digitsOf n) = some n := by
  have hplus := not_mem_digitsOf (c := '+') rfl n
  rw [natural?, digits?_digitsOf]
  · simp [h]
  · intro rest hdigits
    exact hplus (by simp [hdigits])

def unitName (app : String) (n : Nat) : String := s!"{app}/{n}"

namespace ModelStatus

theorem cutLast_unitName (app : String) (n : Nat) :
    Text.cutLast '/' (unitName app n).toList = some (app.toList, Number.digitsOf n) := by
  have hname : (unitName app n).toList = app.toList ++ '/' :: Number.digitsOf n := by
    simp [unitName, Number.digitsOf, toString]
  rw [hname, Text.cutLast_append _ (Number.not_mem_digitsOf rfl n)]

theorem partOf_unitName (app : String) (n : Nat) : partOf (unitName app n) = app := by
  rw [partOf, cutLast_unitName]
  simp

theorem numberOf?_unitName (app : String) {n : Nat} (h : n ≤ Number.max64) :
    numberOf? (unitName app n) = some n := by
  rw [numberOf?, cutLast_unitName, Option.bind_some, Number.natural?_digitsOf h]

/-- Both parts can be told from the name. -/
theorem unitName_inj {app app' : String} {n n' : Nat} :
    unitName app n = unitName app' n' ↔ app = app' ∧ n = n' := by
  constructor
  · intro h
    have hcut := (cutLast_unitName app n).symm.trans (h ▸ cutLast_unitName app' n')
    obtain ⟨happ, hdigits⟩ := Prod.mk.inj (Option.some.inj hcut)
    have hread := Number.digits?_digitsOf n
    rw [hdigits, Number.digits?_digitsOf] at hread
    exact ⟨String.toList_inj.mp happ, (Option.some.inj hread).symm⟩
  · rintro ⟨rfl, rfl⟩
    rfl

theorem mayPrecede_unitName (app : String) {m n : Nat} (hm : m ≤ Number.max64)
    (hn : n ≤ Number.max64) : MayPrecede (unitName app m) (unitName app n) ↔ m ≤ n := by
  rw [MayPrecede, partOf_unitName, partOf_unitName, numberOf?_unitName app hm,
    numberOf?_unitName app hn]
  exact (or_iff_right (String.lt_irrefl app)).trans (and_iff_right rfl)

/-- The first units of an application, so many of them. -/
def unitNames (app : String) (count : Nat) : List String := (List.range count).map (unitName app)

theorem mem_unitNames {app unit : String} {count : Nat} :
    unit ∈ unitNames app count ↔ ∃ n < count, unit = unitName app n := by
  simp [unitNames, eq_comm]

theorem nodup_unitNames (app : String) (count : Nat) : (unitNames app count).Nodup := by
  refine List.Nodup.map_on ?_ List.nodup_range
  exact fun m _ n _ h => (unitName_inj.mp h).2

/-- Units that are numbered are put in the order of their numbers, whatever order they come in. -/
theorem sorted_unitNames {app : String} {count : Nat} {l : List String}
    (hcount : count ≤ Number.max64 + 1) (hnodup : l.Nodup)
    (hmem : ∀ unit, unit ∈ l ↔ unit ∈ unitNames app count) :
    dropRepeats (l.mergeSort unitLe) = unitNames app count := by
  obtain ⟨hsame, hsorted⟩ := mem_and_pairwise l
  have honce : (dropRepeats (l.mergeSort unitLe)).Nodup := by
    have hsort := (List.mergeSort_perm l unitLe).nodup_iff.mpr hnodup
    exact hsort.sublist (dropRepeats_sublist _)
  have hperm : (dropRepeats (l.mergeSort unitLe)).Perm (unitNames app count) := by
    rw [List.perm_ext_iff_of_nodup honce (nodup_unitNames app count)]
    exact fun unit => (hsame unit).trans (hmem unit)
  have hnumbers : (unitNames app count).Pairwise MayPrecede := by
    rw [unitNames, List.pairwise_map]
    refine List.pairwise_lt_range.imp_of_mem ?_
    intro m n hm hn hlt
    rw [List.mem_range] at hm hn
    exact (mayPrecede_unitName app (by omega) (by omega)).mpr (Nat.le_of_lt hlt)
  refine hperm.eq_of_pairwise ?_ hsorted hnumbers
  intro a b ha hb hab hba
  obtain ⟨m, hm, rfl⟩ := mem_unitNames.mp ((hmem a).mp ((hsame a).mp ha))
  obtain ⟨n, hn, rfl⟩ := mem_unitNames.mp hb
  rw [mayPrecede_unitName app (by omega) (by omega)] at hab hba
  rw [Nat.le_antisymm hab hba]

end ModelStatus

end DashboardCheck
