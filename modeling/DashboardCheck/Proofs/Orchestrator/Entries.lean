import DashboardCheck.Proofs.Orchestrator.Units

/-!
# Entries of units

A status has an entry for each unit of an application and for each unit that accompanies one of
these. A unit that is listed has an entry, wherever that is, so it can be resolved; and an address
that is found is the one of an entry. Where a unit has several entries the first one counts.
-/
namespace DashboardCheck.ModelStatus

variable {s : ModelStatus} {app unit address : String} {status : UnitStatus} {listed : List String}

/-- The status has this entry of this name: for a unit of an application, or for one that
accompanies such a unit. -/
def HasEntry (s : ModelStatus) (unit : String) (status : UnitStatus) : Prop :=
  ∃ entry ∈ s.applications, (unit, status) ∈ entry.2.units ∨
    ∃ principal ∈ entry.2.units, (unit, status) ∈ principal.2.subordinates

/-- Looking at a unit: it may be the one, or one that accompanies it. -/
theorem lookAt_eq_some {principal : String × UnitStatus}
    (h : (if principal.1 = unit then some principal.2 else principal.2.subordinates.get? unit) =
      some status) : principal = (unit, status) ∨ (unit, status) ∈ principal.2.subordinates := by
  split at h
  · next hname =>
    obtain rfl := Option.some.inj h
    exact .inl (by rw [← hname])
  · exact .inr (Dict.mem_of_get? h)

theorem hasEntry_of_findUnit? (h : s.findUnit? unit = some status) : s.HasEntry unit status := by
  obtain ⟨principal, hprincipal, hlook⟩ := List.exists_of_findSome?_eq_some h
  obtain ⟨entry, hentry, hunits⟩ := List.mem_flatMap.mp hprincipal
  refine ⟨entry, hentry, ?_⟩
  rcases lookAt_eq_some hlook with rfl | hsubordinate
  · exact .inl hunits
  · exact .inr ⟨principal, hunits, hsubordinate⟩

/-- A unit that is there is found: among the units of the application, or below one of them. -/
theorem lookAt_ne_none {principal : String × UnitStatus}
    (h : principal = (unit, status) ∨ (unit, status) ∈ principal.2.subordinates) :
    (if principal.1 = unit then some principal.2 else principal.2.subordinates.get? unit) ≠
      none := by
  split
  · simp
  · next hname =>
    rcases h with rfl | hsubordinate
    · exact absurd rfl hname
    · rw [Ne, Dict.get?_eq_none_iff, not_not]
      exact List.mem_map_of_mem hsubordinate

/-- A name is found exactly if it has an entry. -/
theorem findUnit?_ne_none (h : s.HasEntry unit status) : s.findUnit? unit ≠ none := by
  obtain ⟨entry, hentry, hwhere⟩ := h
  obtain ⟨principal, hprincipal, hlook⟩ : ∃ principal ∈ entry.2.units,
      principal = (unit, status) ∨ (unit, status) ∈ principal.2.subordinates := by
    rcases hwhere with hunit | ⟨principal, hprincipal, hsubordinate⟩
    · exact ⟨_, hunit, .inl rfl⟩
    · exact ⟨principal, hprincipal, .inr hsubordinate⟩
  rw [findUnit?, Ne, List.findSome?_eq_none_iff]
  intro hnone
  exact lookAt_ne_none hlook (hnone principal (List.mem_flatMap.mpr ⟨entry, hentry, hprincipal⟩))

theorem exists_findUnit? (h : s.HasEntry unit status) :
    ∃ found, s.findUnit? unit = some found ∧ s.HasEntry unit found := by
  obtain ⟨found, hfound⟩ := Option.ne_none_iff_exists'.mp (findUnit?_ne_none h)
  exact ⟨found, hfound, hasEntry_of_findUnit? hfound⟩

/-- An address is that of the first entry, which must not be empty. -/
theorem publicAddress_eq_ok_iff : s.publicAddress unit = .ok address ↔
    ∃ status, s.findUnit? unit = some status ∧ status.address = some address ∧ address ≠ "" := by
  rw [publicAddress]
  cases hfound : s.findUnit? unit with
  | none => simp [Option.filter]
  | some status =>
    cases haddress : status.address with
    | none => simp [haddress, Option.filter]
    | some a =>
      by_cases hempty : a = ""
      · simp [haddress, hempty, Option.filter]
      · simp [haddress, hempty, Option.filter]
        rintro rfl
        exact hempty

/-- There is no other complaint. -/
theorem publicAddress_eq_error (h : ∀ address, s.publicAddress unit ≠ .ok address) :
    s.publicAddress unit = .error (.unitNotFound unit) := by
  rw [publicAddress] at h ⊢
  split at h
  · next address _ => exact absurd rfl (h address)
  · rfl

/-- A unit that is listed stands under the application, or accompanies another unit. -/
theorem hasUnit_of_mem_units (h : s.units app = .ok listed) (hunit : unit ∈ listed) :
    s.Owns app unit ∨ s.Accompanies app unit := by
  by_cases happ : app ∈ s.applicationNames
  · obtain ⟨found, hfound⟩ := Dict.exists_get?_of_mem_names happ
    by_cases hown : found.units = []
    · rw [units_companions hfound hown] at h
      obtain rfl := Except.ok.inj h
      exact .inr (mem_companions.mp ((mem_and_pairwise _).1 unit |>.mp hunit))
    · rw [units_own hfound hown] at h
      obtain rfl := Except.ok.inj h
      exact .inl ((owns_iff hfound unit).mpr ((mem_and_pairwise _).1 unit |>.mp hunit))
  · rw [units_unknown happ] at h
    cases h

theorem hasEntry_of_owns (h : s.Owns app unit) : ∃ status, s.HasEntry unit status := by
  obtain ⟨found, hfound, hunit⟩ := h
  obtain ⟨entry, hentry, rfl⟩ := List.mem_map.mp hunit
  exact ⟨entry.2, (app, found), Dict.mem_of_get? hfound, .inl hentry⟩

theorem hasEntry_of_accompanies (h : s.Accompanies app unit) :
    ∃ status, s.HasEntry unit status := by
  obtain ⟨-, entry, hentry, principal, hprincipal, hunit⟩ := h
  obtain ⟨subordinate, hsubordinate, rfl⟩ := List.mem_map.mp hunit
  exact ⟨subordinate.2, entry, hentry, .inr ⟨principal, hprincipal, hsubordinate⟩⟩

theorem exists_entry_of_mem_units (h : s.units app = .ok listed) (hunit : unit ∈ listed) :
    ∃ status, s.HasEntry unit status := by
  rcases hasUnit_of_mem_units h hunit with hown | haccompanies
  · exact hasEntry_of_owns hown
  · exact hasEntry_of_accompanies haccompanies

/-- If all entries of a name have an address the name is resolved to one of these. -/
theorem publicAddress_of_entries (h : s.HasEntry unit status)
    (hall : ∀ status, s.HasEntry unit status → ∃ a, status.address = some a ∧ a ≠ "") :
    ∃ found a, s.HasEntry unit found ∧ found.address = some a ∧ s.publicAddress unit = .ok a := by
  obtain ⟨found, hfound, hentry⟩ := exists_findUnit? h
  obtain ⟨a, haddress, hne⟩ := hall found hentry
  exact ⟨found, a, hentry, haddress, publicAddress_eq_ok_iff.mpr ⟨found, hfound, haddress, hne⟩⟩

/-- Every unit that is listed has an entry that is found. If all entries of its name have an address
then it is resolved to one of these, and if there is one entry only then to the address of that.
Whatever a name is resolved to is the address of an entry of that name, and a name without an entry
is not resolved. -/
theorem units_resolved (s : ModelStatus) :
    (∀ app listed, s.units app = .ok listed → ∀ unit ∈ listed,
      (∃ status, s.findUnit? unit = some status ∧ s.HasEntry unit status) ∧
      ((∀ status, s.HasEntry unit status → ∃ a, status.address = some a ∧ a ≠ "") →
        ∃ status a, s.HasEntry unit status ∧ status.address = some a ∧
          s.publicAddress unit = .ok a) ∧
      ∀ status a, s.HasEntry unit status → (∀ other, s.HasEntry unit other → other = status) →
        status.address = some a → a ≠ "" → s.publicAddress unit = .ok a) ∧
    (∀ unit a, s.publicAddress unit = .ok a →
      a ≠ "" ∧ ∃ status, s.HasEntry unit status ∧ status.address = some a) ∧
    ∀ unit, (∀ status, ¬ s.HasEntry unit status) →
      s.publicAddress unit = .error (.unitNotFound unit) := by
  refine ⟨fun app listed hlisted unit hunit => ?_, fun unit a haddress => ?_, fun unit hnone => ?_⟩
  · obtain ⟨status, hentry⟩ := exists_entry_of_mem_units hlisted hunit
    refine ⟨exists_findUnit? hentry, publicAddress_of_entries hentry, ?_⟩
    intro only a honly hsingle haddress hne
    have hall : ∀ other, s.HasEntry unit other → ∃ a, other.address = some a ∧ a ≠ "" := by
      intro other hother
      rw [hsingle other hother]
      exact ⟨a, haddress, hne⟩
    obtain ⟨found, a', hfound, haddress', hresolved⟩ := publicAddress_of_entries honly hall
    obtain rfl := hsingle found hfound
    obtain rfl : a = a' := Option.some.inj (haddress.symm.trans haddress')
    exact hresolved
  · obtain ⟨status, hfound, hstatus, hne⟩ := publicAddress_eq_ok_iff.mp haddress
    exact ⟨hne, status, hasEntry_of_findUnit? hfound, hstatus⟩
  · refine publicAddress_eq_error fun a haddress => ?_
    obtain ⟨status, hfound, -⟩ := publicAddress_eq_ok_iff.mp haddress
    exact hnone status (hasEntry_of_findUnit? hfound)

/-- A unit that accompanies another, each at an address of its own. -/
def accompanied : ModelStatus :=
  ⟨[("a", ⟨none, none, []⟩),
    ("p", ⟨none, none,
      [("p/0", .mk (some "10.0.0.1") none [("a/1", .mk (some "10.0.0.2") none [])])]⟩)]⟩

/-- A unit that accompanies another is found by its name. -/
theorem units_resolved_accompanied :
    accompanied.units "a" = .ok ["a/1"] ∧
      (∀ status, accompanied.HasEntry "a/1" status →
        status = .mk (some "10.0.0.2") none []) ∧
      accompanied.publicAddress "a/1" = .ok "10.0.0.2" := by
  have hcompanions : accompanied.companions "a" = ["a/1"] := by decide
  have hunits : accompanied.units "a" = .ok ["a/1"] := by
    rw [units_companions rfl rfl, hcompanions, List.mergeSort_singleton, dropRepeats]
  have hsingle : ∀ status, accompanied.HasEntry "a/1" status →
      status = .mk (some "10.0.0.2") none [] := by
    intro status hentry
    simpa [HasEntry, accompanied, UnitStatus.subordinates] using hentry
  have hentry : accompanied.HasEntry "a/1" (.mk (some "10.0.0.2") none []) := by
    simp [HasEntry, accompanied, UnitStatus.subordinates]
  have hresolved := ((units_resolved accompanied).1 "a" ["a/1"] hunits "a/1" (by simp)).2.2
  exact ⟨hunits, hsingle, hresolved _ _ hentry hsingle rfl (by decide)⟩

end DashboardCheck.ModelStatus
