import DashboardCheck.Dict
import Mathlib.Data.List.Sort

/-!
# Dictionaries in order

A dictionary that is built by insertions has its names in ascending order, so none of them twice.
What it holds under a name is then its one entry of that name.
-/
namespace DashboardCheck.Dict

variable {α β : Type} {dict : Dict α} {name other : String} {value : α}

@[simp] theorem names_mapValues (f : α → β) (dict : Dict α) :
    names (mapValues f dict) = names dict := by
  simp [names, mapValues, Function.comp_def]

theorem mem_names_insert (value : α) (dict : Dict α) :
    other ∈ names (insert name value dict) ↔ other = name ∨ other ∈ names dict := by
  induction dict with
  | nil => simp [names, insert]
  | cons entry rest ih =>
    simp only [names] at ih
    rw [insert]
    split
    · simp [names]
    · split
      · next heq => simp [names, ← heq]
      · simp [names, ih, or_left_comm]

theorem get?_eq_none_iff : get? dict name = none ↔ name ∉ names dict := by
  rw [get?, Option.map_eq_none_iff, List.find?_eq_none, names, List.mem_map]
  constructor
  · rintro hnone ⟨entry, hentry, rfl⟩
    exact hnone entry hentry (beq_self_eq_true entry.1)
  · intro hnot entry hentry
    simpa using fun heq => hnot ⟨entry, hentry, heq⟩

theorem mem_of_get? (h : get? dict name = some value) : (name, value) ∈ dict := by
  obtain ⟨entry, hentry, rfl⟩ := Option.map_eq_some_iff.mp h
  have hname : entry.1 = name := by simpa using List.find?_some hentry
  rw [← hname]
  exact List.mem_of_find?_eq_some hentry

theorem exists_get?_of_mem_names (h : name ∈ names dict) : ∃ value, get? dict name = some value :=
  Option.ne_none_iff_exists'.mp fun hnone => get?_eq_none_iff.mp hnone h

theorem lookup_eq_get? (dict : Dict α) (name : String) : dict.lookup name = get? dict name := by
  induction dict with
  | nil => rfl
  | cons entry rest ih =>
    rw [List.lookup_cons, get?_cons, ih]
    by_cases h : entry.1 = name
    · simp [h]
    · simp [h, beq_false_of_ne (Ne.symm h)]

theorem holds_iff : holds dict name = true ↔ name ∈ names dict := by
  simp [holds, names]

def Ascending (dict : Dict α) : Prop := (names dict).Pairwise (· < ·)

theorem Ascending.nodup (h : Ascending dict) : (names dict).Nodup := by
  refine List.Pairwise.imp ?_ h
  rintro name _ hlt rfl
  exact String.lt_irrefl name hlt

theorem lt_of_not_lt_of_ne {a b : String} (hnot : ¬ a < b) (hne : a ≠ b) : b < a :=
  Decidable.byContradiction fun hnot' =>
    hne (String.le_antisymm (String.not_lt.mp hnot') (String.not_lt.mp hnot))

theorem ascending_insert (name : String) (value : α) (h : Ascending dict) :
    Ascending (insert name value dict) := by
  induction dict with
  | nil => simp [insert, Ascending, names]
  | cons entry rest ih =>
    obtain ⟨hhead, hrest⟩ := List.pairwise_cons.mp h
    rw [insert]
    split
    · next hlt =>
      refine List.pairwise_cons.mpr ⟨?_, h⟩
      intro other hother
      rcases List.mem_cons.mp hother with rfl | hmem
      · exact hlt
      · exact String.lt_trans hlt (hhead other hmem)
    · next hge =>
      split
      · next heq =>
        subst heq
        exact h
      · next hne =>
        refine List.pairwise_cons.mpr ⟨?_, ih hrest⟩
        intro other hother
        rcases (mem_names_insert value rest).mp hother with rfl | hmem
        · exact lt_of_not_lt_of_ne hge hne
        · exact hhead other hmem

/-- A dictionary made from entries is in order, whatever order they came in. -/
theorem ascending_ofList (entries : List (String × α)) : Ascending (ofList entries) := by
  have hfold : ∀ (rest : List (String × α)) (dict : Dict α), Ascending dict →
      Ascending (rest.foldl (fun dict entry => insert entry.1 entry.2 dict) dict) := by
    intro rest
    induction rest with
    | nil => exact fun _ hdict => hdict
    | cons entry rest ih => exact fun dict hdict => ih _ (ascending_insert entry.1 entry.2 hdict)
  exact hfold entries [] List.Pairwise.nil

theorem insert_of_forall_lt (value : α) (h : ∀ entry ∈ dict, entry.1 < name) :
    insert name value dict = dict ++ [(name, value)] := by
  induction dict with
  | nil => rfl
  | cons entry rest ih =>
    obtain ⟨hhead, hrest⟩ := List.forall_mem_cons.mp h
    have hnot : ¬name < entry.1 := fun hlt => String.lt_irrefl name (String.lt_trans hlt hhead)
    have hne : name ≠ entry.1 := by
      rintro rfl
      exact String.lt_irrefl _ hhead
    rw [insert, if_neg hnot, if_neg hne, ih hrest, List.cons_append]

/-- Entries that come in order are the dictionary made from them. -/
theorem Ascending.ofList_eq (h : Ascending dict) : ofList dict = dict := by
  have hfold : ∀ (rest dict : Dict α), Ascending (dict ++ rest) →
      rest.foldl (fun dict entry => insert entry.1 entry.2 dict) dict = dict ++ rest := by
    intro rest
    induction rest with
    | nil => simp
    | cons entry rest ih =>
      intro dict hdict
      have hbelow : ∀ other ∈ dict, other.1 < entry.1 := by
        rw [Ascending, names, List.map_append, List.pairwise_append] at hdict
        exact fun other hother => hdict.2.2 other.1 (List.mem_map_of_mem hother) entry.1 (by simp)
      rw [List.foldl_cons, insert_of_forall_lt _ hbelow, ih, List.append_assoc]
      · rfl
      · rwa [List.append_assoc]
  exact hfold dict [] h

/-- In order, an entry is found under its name. -/
theorem Ascending.get?_of_mem (h : Ascending dict) (hmem : (name, value) ∈ dict) :
    get? dict name = some value := by
  have hname : name ∈ names dict := List.mem_map.mpr ⟨(name, value), hmem, rfl⟩
  obtain ⟨found, hfound⟩ := exists_get?_of_mem_names hname
  have hsame := List.inj_on_of_nodup_map h.nodup (mem_of_get? hfound) hmem rfl
  rw [hfound, (Prod.mk.inj hsame).2]

theorem mem_names_ofList {entries : List (String × α)} :
    name ∈ names (ofList entries) ↔ name ∈ entries.map Prod.fst := by
  have hfold : ∀ (rest : List (String × α)) (dict : Dict α),
      name ∈ names (rest.foldl (fun dict entry => insert entry.1 entry.2 dict) dict) ↔
        name ∈ names dict ∨ name ∈ rest.map Prod.fst := by
    intro rest
    induction rest with
    | nil => simp
    | cons entry rest ih =>
      intro dict
      rw [List.foldl_cons, ih, mem_names_insert, List.map_cons, List.mem_cons, or_assoc,
        or_left_comm]
  rw [ofList, hfold entries []]
  simp [names]

theorem mem_of_mem_insert {entry : String × α} (h : entry ∈ insert name value dict) :
    entry = (name, value) ∨ entry ∈ dict := by
  induction dict with
  | nil => exact .inl (by simpa [insert] using h)
  | cons head rest ih =>
    rw [insert] at h
    split at h
    · exact List.mem_cons.mp h
    · split at h
      · exact (List.mem_cons.mp h).imp_right (List.mem_cons_of_mem head)
      · rcases List.mem_cons.mp h with rfl | hrest
        · exact .inr List.mem_cons_self
        · exact (ih hrest).imp_right (List.mem_cons_of_mem head)

theorem mem_of_mem_ofList {entry : String × α} {entries : List (String × α)}
    (h : entry ∈ ofList entries) : entry ∈ entries := by
  have hfold : ∀ (rest : List (String × α)) (dict : Dict α),
      entry ∈ rest.foldl (fun dict entry => insert entry.1 entry.2 dict) dict →
        entry ∈ dict ∨ entry ∈ rest := by
    intro rest
    induction rest with
    | nil => exact fun _ hmem => .inl hmem
    | cons head rest ih =>
      intro dict hmem
      rcases ih _ hmem with hinsert | hrest
      · rcases mem_of_mem_insert hinsert with rfl | hdict
        · exact .inr List.mem_cons_self
        · exact .inl hdict
      · exact .inr (List.mem_cons_of_mem head hrest)
  exact (hfold entries [] h).resolve_left List.not_mem_nil

/-- Of entries with names of their own each is found. -/
theorem get?_ofList {entries : List (String × α)} (hnames : (entries.map Prod.fst).Nodup)
    (hmem : (name, value) ∈ entries) : get? (ofList entries) name = some value := by
  have hfold : ∀ (rest : List (String × α)) (dict : Dict α), (rest.map Prod.fst).Nodup →
      (name, value) ∈ rest ∨ (name ∉ rest.map Prod.fst ∧ get? dict name = some value) →
      get? (rest.foldl (fun dict entry => insert entry.1 entry.2 dict) dict) name =
        some value := by
    intro rest
    induction rest with
    | nil => simp
    | cons entry rest ih =>
      intro dict hnodup hwhere
      rw [List.map_cons, List.nodup_cons] at hnodup
      refine ih _ hnodup.2 ?_
      rcases hwhere with hmem | ⟨hnot, hget⟩
      · rcases List.mem_cons.mp hmem with rfl | hrest
        · exact .inr ⟨hnodup.1, get?_insert_self name value dict⟩
        · exact .inl hrest
      · obtain ⟨hne, hnot⟩ : name ≠ entry.1 ∧ name ∉ rest.map Prod.fst := by simpa using hnot
        exact .inr ⟨hnot, by rw [get?_insert_other _ _ hne, hget]⟩
  exact hfold entries [] hnames (.inl hmem)

theorem get?_append (dict other : Dict α) (name : String) :
    get? (dict ++ other) name = (get? dict name).or (get? other name) := by
  rw [get?, get?, get?, List.find?_append, Option.map_or]

theorem get?_mapValues (f : α → β) (dict : Dict α) (name : String) :
    get? (mapValues f dict) name = (get? dict name).map f := by
  induction dict with
  | nil => rfl
  | cons entry rest ih =>
    rw [mapValues, List.map_cons, ← mapValues, get?_cons, get?_cons, ih]
    split <;> rfl

theorem mapValues_append (f : α → β) (dict other : Dict α) :
    mapValues f (dict ++ other) = mapValues f dict ++ mapValues f other :=
  List.map_append

theorem mapValues_reverse (f : α → β) (dict : Dict α) :
    mapValues f dict.reverse = (mapValues f dict).reverse :=
  List.map_reverse

theorem overlay_append (dict other more : Dict α) :
    overlay dict (other ++ more) = overlay (overlay dict other) more :=
  List.foldl_append

/-- The last entry of a name that is laid over decides. -/
theorem get?_overlay (dict other : Dict α) (name : String) :
    get? (overlay dict other) name = (get? other.reverse name).or (get? dict name) := by
  rw [overlay]
  induction other generalizing dict with
  | nil => rfl
  | cons entry rest ih =>
    rw [List.foldl_cons, ih, List.reverse_cons, get?_append, Option.or_assoc, get?_cons]
    by_cases h : entry.1 = name
    · rw [if_pos h, h, get?_insert_self, Option.some_or]
    · rw [if_neg h, get?_insert_other _ _ (Ne.symm h), get?_nil, Option.none_or]

theorem get?_overlay_other {other : Dict α} (dict : Dict α) (h : name ∉ names other) :
    get? (overlay dict other) name = get? dict name := by
  have hnone : get? other.reverse name = none := get?_eq_none_iff.mpr (by simpa [names] using h)
  rw [get?_overlay, hnone, Option.none_or]

end DashboardCheck.Dict
