import DashboardCheck.Proofs.Dict
import DashboardCheck.Proofs.Document.Record
import Mathlib.Data.List.Forall2

/-!
# Tables, entry by entry

A table under any names is read entry by entry, and a record field by field. So what was read has
what each part of the reading gives it: names in order, and every property that no field breaks.
-/
namespace DashboardCheck.Document

abbrev Members := List (Key × Node × Closing)

namespace Shape

variable {α σ : Type} {depth : Nat} {node : Node}

def ReadsAs (read : Node → Except Failure α) (member : Key × Node × Closing)
    (entry : String × α) : Prop :=
  member.1.name = .ok entry.1 ∧ read member.2.1 = .ok entry.2

theorem entries_eq_ok_iff {read : Node → Except Failure α} {members : Members}
    {found : List (String × α)} :
    entries read members = .ok found ↔ List.Forall₂ (ReadsAs read) members found := by
  induction members generalizing found with
  | nil => simp [entries, eq_comm]
  | cons member rest ih =>
    obtain ⟨key, child, closing⟩ := member
    rw [entries, List.forall₂_cons_left_iff]
    cases hkey : key.name with
    | error fault => simp [Except.mapError, bind, Except.bind, ReadsAs, hkey]
    | ok name =>
      cases hread : read child with
      | error failure => simp [Except.mapError, bind, Except.bind, ReadsAs, hread]
      | ok value =>
        cases hrest : entries read rest with
        | error failure =>
          simp only [Except.mapError, bind, Except.bind, reduceCtorEq, false_iff]
          rintro ⟨_, _, -, hforall, -⟩
          rw [hrest] at ih
          exact absurd (ih.mpr hforall) (by simp)
        | ok values =>
          simp only [Except.mapError, bind, Except.bind, pure, Except.pure, Except.ok.injEq]
          have hvalues : ∀ found', List.Forall₂ (ReadsAs read) rest found' ↔ values = found' := by
            intro found'
            rw [← ih, hrest, Except.ok.injEq]
          simp only [hvalues, ReadsAs, hkey, hread, Except.ok.injEq]
          constructor
          · rintro rfl
            exact ⟨(name, value), values, ⟨rfl, rfl⟩, rfl, rfl⟩
          · rintro ⟨entry, _, ⟨rfl, rfl⟩, rfl, rfl⟩
            rfl

theorem forall₂_mem {R : α → σ → Prop} {l : List α} {l' : List σ} (h : List.Forall₂ R l l') :
    (∀ a ∈ l, ∃ b ∈ l', R a b) ∧ ∀ b ∈ l', ∃ a ∈ l, R a b := by
  induction h with
  | nil => simp
  | cons hhead _ ih =>
    constructor
    · intro a ha
      rcases List.mem_cons.mp ha with rfl | hrest
      · exact ⟨_, List.mem_cons_self, hhead⟩
      · obtain ⟨b, hb, hab⟩ := ih.1 a hrest
        exact ⟨b, List.mem_cons_of_mem _ hb, hab⟩
    · intro b hb
      rcases List.mem_cons.mp hb with rfl | hrest
      · exact ⟨_, List.mem_cons_self, hhead⟩
      · obtain ⟨a, ha, hab⟩ := ih.2 b hrest
        exact ⟨a, List.mem_cons_of_mem _ ha, hab⟩

/-- The names of what was read are those of the entries. -/
theorem names_of_entries {read : Node → Except Failure α} {members : Members}
    {found : List (String × α)} (h : List.Forall₂ (ReadsAs read) members found) :
    members.map (fun member => member.1.name.toOption) = found.map fun entry => some entry.1 := by
  induction h with
  | nil => rfl
  | cons hhead _ ih => rw [List.map_cons, List.map_cons, ih, hhead.1, Except.toOption]

/-- A table under any names is read entry by entry. -/
theorem dictOf_eq_ok {shape : Shape α} {dict : Dict α}
    (h : dictOf shape depth node = .ok dict) :
    ∃ mark opened members found, node = .table mark opened members none ∧
      List.Forall₂ (ReadsAs (shape (depth - 1))) members found ∧ dict = Dict.ofList found := by
  cases node with
  | table mark opened members stop =>
    rw [dictOf] at h
    by_cases hdepth : depth ≤ 1
    · rw [if_pos hdepth] at h
      cases h
    · rw [if_neg hdepth] at h
      cases hread : entries (shape (depth - 1)) members with
      | error failure =>
        rw [hread] at h
        cases h
      | ok found =>
        rw [hread] at h
        cases stop with
        | some trouble => cases h
        | none =>
          cases h
          exact ⟨mark, opened, members, found, rfl, entries_eq_ok_iff.mp hread, rfl⟩
  | _ => simp [dictOf] at h

/-- Names of a table that was read ascend. -/
theorem dictOf_ascending {shape : Shape α} {dict : Dict α}
    (h : dictOf shape depth node = .ok dict) : dict.Ascending := by
  obtain ⟨_, _, _, found, -, -, rfl⟩ := dictOf_eq_ok h
  exact Dict.ascending_ofList found

/-- What holds of all that a shape reads holds of all entries. -/
theorem dictOf_forall {shape : Shape α} {dict : Dict α} {P : α → Prop}
    (h : dictOf shape depth node = .ok dict)
    (hshape : ∀ child value, shape (depth - 1) child = .ok value → P value) :
    ∀ entry ∈ dict, P entry.2 := by
  obtain ⟨_, _, _, found, -, hfound, rfl⟩ := dictOf_eq_ok h
  intro entry hentry
  obtain ⟨member, -, hread⟩ := (forall₂_mem hfound).2 entry (Dict.mem_of_mem_ofList hentry)
  exact hshape member.2.1 entry.2 hread.2

theorem withDefault_read_eq_ok_iff {name : String} {shape : Shape α} {put : α → σ → σ}
    {f : σ → σ} : (Field.withDefault name shape put).read depth node = .ok f ↔
      ∃ value, shape depth node = .ok value ∧ f = put value := by
  cases hread : shape depth node with
  | error failure => simp [Field.withDefault, hread, Except.map]
  | ok value => simp [Field.withDefault, hread, Except.map, eq_comm]

theorem withDefault_reads {name : String} {shape : Shape α} {put : α → σ → σ} {a : α}
    (h : shape depth node = .ok a) :
    ∃ f, (Field.withDefault name shape put).read depth node = .ok f :=
  ⟨put a, withDefault_read_eq_ok_iff.mpr ⟨a, h, rfl⟩⟩

namespace Record

variable {record : Record σ} {P : σ → Prop}

def Keeps (record : Record σ) (depth : Nat) (P : σ → Prop) : Prop :=
  ∀ field ∈ record.fields, ∀ node put, field.read depth node = .ok put →
    ∀ state, P state → P (put state)

/-- What every field keeps, reading a table keeps. -/
theorem ofMembers_keeps (hkeeps : record.Keeps depth P) {members : Members}
    {seen seen' : List String} {state state' : σ}
    (h : record.ofMembers depth members seen state = .ok (seen', state')) (hstate : P state) :
    P state' := by
  induction members generalizing seen state with
  | nil =>
    rw [ofMembers] at h
    cases h
    exact hstate
  | cons member rest ih =>
    obtain ⟨name, -, ⟨-, -, hrest⟩ | ⟨field, put, hfield, -, hread, hrest⟩⟩ :=
      ofMembers_cons_ok h
    · exact ih hrest hstate
    · exact ih hrest (hkeeps field (field?_name hfield).1 member.2.1 put hread state hstate)

/-- What every field keeps, reading a list keeps. -/
theorem ofItems_keeps (hkeeps : record.Keeps depth P) {stop : Option Break}
    {fields : List (Field σ)} (hfields : ∀ field ∈ fields, field ∈ record.fields)
    {items : List (Node × Closing)} {count : Nat} {closing : Closing} {state state' : σ}
    (h : record.ofItems depth stop fields items count closing state = .ok state')
    (hstate : P state) : P state' := by
  induction fields generalizing items count closing state with
  | nil =>
    obtain rfl := ofItems_nil_ok h
    exact hstate
  | cons field fields ih =>
    have hfields' : ∀ other ∈ fields, other ∈ record.fields :=
      fun other hother => hfields other (List.mem_cons_of_mem field hother)
    obtain ⟨rfl, -, -, hrest⟩ | ⟨item, rest, put, rfl, hread, hrest⟩ := ofItems_cons_ok h
    · exact ih hfields' hrest hstate
    · exact ih hfields' hrest
        (hkeeps field (hfields field List.mem_cons_self) item.1 put hread state hstate)

/-- What reading any one field keeps, reading the record keeps. -/
theorem shape_keeps (hkeeps : record.Keeps (depth - 1) P) (hstart : P record.start) {state : σ}
    (h : record.shape depth node = .ok state) : P state := by
  obtain ⟨-, ⟨_, _, _, _, -, hread, -⟩ | ⟨_, _, _, _, -, hread⟩⟩ := shape_ok h
  · exact ofMembers_keeps hkeeps hread hstart
  · exact ofItems_keeps hkeeps (fun _ hfield => hfield) hread hstart

end Record

end Shape

end DashboardCheck.Document
