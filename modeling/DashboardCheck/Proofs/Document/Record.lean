import DashboardCheck.Document.Shape
import Mathlib.Data.List.Nodup

/-!
# What a record takes from a document

A record is read from a table by the names of its fields, or from a list by their order. What the
document gives under those names decides whether it is read, apart from parts that cannot even be
passed over, and it decides what is read.
-/
namespace DashboardCheck.Document

def Node.scalar? : Node → Option Scalar
  | .scalar _ value => some value
  | _ => none

def namedNode? (names : List String) (member : Key × Node × Closing) : Option (String × Node) :=
  (member.1.name.toOption.filter names.contains).map fun name => (name, member.2.1)

/-- What a table gives under these names, or a list in their order. Nothing else gives anything. -/
def Node.given? (names : List String) : Node → Option (List (String × Node))
  | .table _ _ members _ => some (members.filterMap (namedNode? names))
  | .list _ _ items _ => some (names.zip (items.map Prod.fst))
  | _ => none

/-- A node that is whole: its names can be read, and nothing is wrong with its end. -/
def Node.IsWhole : Node → Prop
  | .table _ _ members stop => stop = none ∧ ∀ member ∈ members, ∃ name, member.1.name = .ok name
  | .list _ opened items stop => stop = none ∧ opened.fault = none ∧
      ∀ item ∈ items, item.2.fault = none
  | _ => True

theorem skipMembers_eq_none_iff {members : List (Key × Node × Closing)} :
    skipMembers members = none ↔ ∀ member ∈ members, member.2.1.skip = none := by
  induction members with
  | nil => simp [skipMembers]
  | cons member rest ih => simp [skipMembers, ih]

namespace Shape

variable {σ β : Type}

theorem text_eq_ok_iff {depth : Nat} {node : Node} {s : String} :
    Shape.text depth node = .ok s ↔ node.scalar? = some (.string s) := by
  cases node with
  | scalar mark value => cases value <;> simp [Shape.text, Node.scalar?]
  | _ => simp [Shape.text, Node.scalar?]

/-- A number is read only if it is whole, not negative and within the limit. -/
theorem natural_eq_ok_iff {limit depth n : Nat} {name : String} {node : Node} :
    Shape.natural limit name depth node = .ok n ↔
      ∃ i : Int, node.scalar? = some (.integer i) ∧ (0 ≤ i ∧ i ≤ limit) ∧ i.toNat = n := by
  cases node with
  | scalar mark value =>
    cases value with
    | integer i =>
      by_cases hrange : 0 ≤ i ∧ i ≤ limit
      · simp [natural, integer, Except.map, Node.scalar?, hrange]
      · have herror : ∃ failure, integer 0 limit name depth (.scalar mark (.integer i)) =
            .error failure := by
          rw [integer, if_neg (by simpa using hrange)]
          split <;> exact ⟨_, rfl⟩
        obtain ⟨failure, herror⟩ := herror
        simp only [natural, herror, Except.map, Node.scalar?, Option.some.injEq,
          Scalar.integer.injEq, reduceCtorEq, false_iff]
        rintro ⟨_, rfl, hin, -⟩
        exact hrange hin
    | _ => simp [natural, integer, Except.map, Node.scalar?]
  | _ => simp [natural, integer, Except.map, Node.scalar?]

namespace Record

def names (record : Record σ) : List String := record.fields.map Field.name

/-- No field has to be there. -/
def IsLenient (record : Record σ) : Prop :=
  ∀ field ∈ record.fields, field.inTable = false ∧ field.inList = false

def field? (record : Record σ) (name : String) : Option (Field σ) :=
  record.fields.find? fun field => field.name == name

/-- What a document gives can be read as the field that it is given for. -/
def Reads (record : Record σ) (depth : Nat) (entry : String × Node) : Prop :=
  ∃ field, record.field? entry.1 = some field ∧ ∃ put, field.read depth entry.2 = .ok put

/-- The entries can be read: each name stands for one of them only, and each has its field. -/
structure Accepts (record : Record σ) (depth : Nat) (entries : List (String × Node)) : Prop where
  once : (entries.map Prod.fst).Nodup
  reads : ∀ entry ∈ entries, record.Reads depth entry

variable {record : Record σ} {depth : Nat}

theorem field?_eq_none_iff {name : String} :
    record.field? name = none ↔ name ∉ record.names := by
  simp [field?, names]

theorem field?_name {name : String} {field : Field σ} (h : record.field? name = some field) :
    field ∈ record.fields ∧ field.name = name := by
  have hname := List.find?_some h
  exact ⟨List.mem_of_find?_eq_some h, by simpa using hname⟩

theorem field?_of_mem {field : Field σ} (hnames : record.names.Nodup)
    (h : field ∈ record.fields) : record.field? field.name = some field := by
  cases hfound : record.field? field.name with
  | none =>
    rw [field?_eq_none_iff] at hfound
    exact absurd (List.mem_map_of_mem h) hfound
  | some other =>
    obtain ⟨hmem, hname⟩ := field?_name hfound
    exact congrArg some (List.inj_on_of_nodup_map hnames hmem h hname)

/-- An entry with another name gives nothing. -/
theorem namedNode?_unknown {member : Key × Node × Closing} {name : String}
    (hkey : member.1.name = .ok name) (hname : record.field? name = none) :
    namedNode? record.names member = none := by
  rw [field?_eq_none_iff] at hname
  simp [namedNode?, hkey, Except.toOption, hname]

/-- An entry under the name of a field is that of the field. -/
theorem namedNode?_known {member : Key × Node × Closing} {name : String} {field : Field σ}
    (hkey : member.1.name = .ok name) (hname : record.field? name = some field) :
    namedNode? record.names member = some (name, member.2.1) := by
  obtain ⟨hmem, rfl⟩ := field?_name hname
  have hnames : field.name ∈ record.names := List.mem_map_of_mem hmem
  simp [namedNode?, hkey, Except.toOption, hnames]

/-- How a table goes on behind an entry that was read: the entry is passed over, or it is the first
one under the name of its field. -/
theorem ofMembers_cons_ok {member : Key × Node × Closing} {rest : List (Key × Node × Closing)}
    {seen : List String} {state : σ} {out : List String × σ}
    (h : record.ofMembers depth (member :: rest) seen state = .ok out) :
    ∃ name, member.1.name = .ok name ∧
      (record.field? name = none ∧ member.2.1.skip = none ∧
          record.ofMembers depth rest seen state = .ok out ∨
        ∃ field put, record.field? name = some field ∧ name ∉ seen ∧
          field.read depth member.2.1 = .ok put ∧
          record.ofMembers depth rest (name :: seen) (put state) = .ok out) := by
  obtain ⟨key, node, closing⟩ := member
  rw [ofMembers] at h
  cases hkey : key.name with
  | error fault => simp [hkey] at h
  | ok name =>
    rw [hkey] at h
    dsimp only at h
    refine ⟨name, rfl, ?_⟩
    cases hfield : record.field? name with
    | none =>
      rw [← field?, hfield] at h
      cases hskip : node.skip with
      | some fault => simp [hskip] at h
      | none =>
        rw [hskip] at h
        exact .inl ⟨rfl, rfl, h⟩
    | some field =>
      rw [← field?, hfield] at h
      dsimp only at h
      by_cases hseen : seen.contains name = true
      · rw [if_pos hseen] at h
        cases h
      · rw [if_neg hseen] at h
        cases hread : field.read depth node with
        | error failure => simp [hread] at h
        | ok put =>
          rw [hread] at h
          exact .inr ⟨field, put, rfl, by simpa using hseen, hread, h⟩

/-- Behind all fields a list changes nothing. -/
theorem ofItems_nil_ok {stop : Option Break} {items : List (Node × Closing)} {count : Nat}
    {closing : Closing} {state state' : σ}
    (h : record.ofItems depth stop [] items count closing state = .ok state') : state' = state := by
  rw [ofItems] at h
  cases hclosing : closing.fault with
  | some fault => simp [hclosing] at h
  | none =>
    rw [hclosing] at h
    exact (Except.ok.inj h).symm

/-- How a list goes on behind a field: it had come to its end, where the field may be left out, or
the field was read from its next item. -/
theorem ofItems_cons_ok {stop : Option Break} {field : Field σ} {fields : List (Field σ)}
    {items : List (Node × Closing)} {count : Nat} {closing : Closing} {state state' : σ}
    (h : record.ofItems depth stop (field :: fields) items count closing state = .ok state') :
    items = [] ∧ stop = none ∧ field.inList = false ∧
        record.ofItems depth stop fields [] (count + 1) closing state = .ok state' ∨
      ∃ item rest put, items = item :: rest ∧ field.read depth item.1 = .ok put ∧
        record.ofItems depth stop fields rest (count + 1) item.2 (put state) = .ok state' := by
  cases items with
  | nil =>
    cases stop with
    | some trouble =>
      rw [ofItems] at h
      cases h
    | none =>
      rw [ofItems] at h
      cases hneeded : field.inList with
      | true => simp [hneeded] at h
      | false =>
        simp only [hneeded, Bool.false_eq_true, if_false] at h
        exact .inl ⟨rfl, rfl, rfl, h⟩
  | cons item rest =>
    obtain ⟨node, closing'⟩ := item
    rw [ofItems] at h
    cases hread : field.read depth node with
    | error failure => simp [hread] at h
    | ok put =>
      rw [hread] at h
      exact .inr ⟨(node, closing'), rest, put, rfl, hread, h⟩

/-- What is read under names that were not met before can be read. -/
theorem accepts_of_ofMembers {members : List (Key × Node × Closing)} {seen seen' : List String}
    {state state' : σ} (h : record.ofMembers depth members seen state = .ok (seen', state')) :
    record.Accepts depth (members.filterMap (namedNode? record.names)) ∧
      ∀ entry ∈ members.filterMap (namedNode? record.names), entry.1 ∉ seen := by
  induction members generalizing seen state with
  | nil => exact ⟨⟨by simp, by simp⟩, by simp⟩
  | cons member rest ih =>
    obtain ⟨name, hkey, ⟨hfield, -, hrest⟩ | ⟨field, put, hfield, hseen, hread, hrest⟩⟩ :=
      ofMembers_cons_ok h
    · rw [List.filterMap_cons_none (namedNode?_unknown hkey hfield)]
      exact ih hrest
    · rw [List.filterMap_cons_some (namedNode?_known hkey hfield)]
      obtain ⟨haccepts, hnew⟩ := ih hrest
      -- the name counts as seen from here on, so that it does not come again
      refine ⟨⟨?_, ?_⟩, ?_⟩
      · rw [List.map_cons, List.nodup_cons]
        refine ⟨?_, haccepts.once⟩
        intro hagain
        obtain ⟨entry, hentry, hsame⟩ := List.mem_map.mp hagain
        exact hnew entry hentry (by simp [hsame])
      · intro entry hentry
        rcases List.mem_cons.mp hentry with rfl | hlater
        · exact ⟨field, hfield, put, hread⟩
        · exact haccepts.reads entry hlater
      · intro entry hentry hmem
        rcases List.mem_cons.mp hentry with rfl | hlater
        · exact hseen hmem
        · exact hnew entry hlater (List.mem_cons_of_mem name hmem)

/-- Conversely all is read if it can be, whatever else there is that can be passed over. -/
theorem ofMembers_of_accepts {members : List (Key × Node × Closing)} {seen : List String}
    (state : σ) (hkeys : ∀ member ∈ members, ∃ name, member.1.name = .ok name)
    (hskip : ∀ member ∈ members, member.2.1.skip = none)
    (haccepts : record.Accepts depth (members.filterMap (namedNode? record.names)))
    (hnew : ∀ entry ∈ members.filterMap (namedNode? record.names), entry.1 ∉ seen) :
    ∃ seen' state', record.ofMembers depth members seen state = .ok (seen', state') := by
  induction members generalizing seen state with
  | nil => exact ⟨seen, state, rfl⟩
  | cons member rest ih =>
    obtain ⟨key, node, closing⟩ := member
    obtain ⟨name, hkey⟩ := hkeys _ List.mem_cons_self
    have hkeys' : ∀ member ∈ rest, ∃ name, member.1.name = .ok name :=
      fun member hmem => hkeys member (List.mem_cons_of_mem _ hmem)
    have hskip' : ∀ member ∈ rest, member.2.1.skip = none :=
      fun member hmem => hskip member (List.mem_cons_of_mem _ hmem)
    rw [ofMembers, hkey]
    dsimp only
    cases hfield : record.field? name with
    | none =>
      rw [List.filterMap_cons_none (namedNode?_unknown hkey hfield)] at haccepts hnew
      rw [← field?, hfield, hskip _ List.mem_cons_self]
      exact ih state hkeys' hskip' haccepts hnew
    | some field =>
      rw [List.filterMap_cons_some (namedNode?_known hkey hfield)] at haccepts hnew
      obtain ⟨other, hother, put, hread⟩ := haccepts.reads _ List.mem_cons_self
      obtain rfl : other = field := Option.some.inj (hother.symm.trans hfield)
      have hunseen : ¬ seen.contains name = true := by
        simpa using hnew _ List.mem_cons_self
      rw [← field?, hfield]
      dsimp only
      rw [if_neg hunseen, hread]
      have honce := haccepts.once
      rw [List.map_cons, List.nodup_cons] at honce
      refine ih (put state) hkeys' hskip' ⟨honce.2, ?_⟩ ?_
      · exact fun entry hentry => haccepts.reads entry (List.mem_cons_of_mem _ hentry)
      · intro entry hentry hmem
        rcases List.mem_cons.mp hmem with hsame | hmem
        · exact honce.1 (List.mem_map.mpr ⟨entry, hentry, hsame⟩)
        · exact hnew entry (List.mem_cons_of_mem _ hentry) hmem

/-- Looks into a record by names: reading a field leaves, under its name, what the node means there,
and nothing else changes. -/
structure Sees (record : Record σ) (depth : Nat) (get : String → σ → β)
    (meaning : String → Node → Option β) : Prop where
  own : ∀ field ∈ record.fields, ∀ node put, field.read depth node = .ok put →
    ∀ state, meaning field.name node = some (get field.name (put state))
  other : ∀ field ∈ record.fields, ∀ node put, field.read depth node = .ok put →
    ∀ name ∈ record.names, name ≠ field.name → ∀ state, get name (put state) = get name state

def valueIn (meaning : String → Node → Option β) (entries : List (String × Node)) (name : String)
    (otherwise : β) : β :=
  ((entries.lookup name).bind (meaning name)).getD otherwise

theorem lookup_eq_none {entries : List (String × Node)} {name : String}
    (h : name ∉ entries.map Prod.fst) : entries.lookup name = none := by
  rw [List.lookup_eq_none_iff]
  intro entry hentry
  simpa using fun hsame => h (List.mem_map.mpr ⟨entry, hentry, hsame.symm⟩)

theorem map_fst_zip {α γ : Type} (names : List α) (nodes : List γ) :
    (names.zip nodes).map Prod.fst = names.take nodes.length := by
  induction names generalizing nodes with
  | nil => simp
  | cons name rest ih =>
    cases nodes with
    | nil => rfl
    | cons node nodes => simp [ih]

section Sees

variable {get : String → σ → β} {meaning : String → Node → Option β}
  (hsees : record.Sees depth get meaning) {name : String} (hname : name ∈ record.names)

include hsees hname

/-- One entry, whose name does not come again. -/
theorem valueIn_cons {field : Field σ} {node : Node} {put : σ → σ} (state : σ)
    {entries : List (String × Node)} (hfield : field ∈ record.fields)
    (hread : field.read depth node = .ok put) (hnew : field.name ∉ entries.map Prod.fst) :
    valueIn meaning ((field.name, node) :: entries) name (get name state) =
      valueIn meaning entries name (get name (put state)) := by
  by_cases hsame : name = field.name
  · subst hsame
    rw [valueIn, valueIn, lookup_eq_none hnew, List.lookup_cons_self, Option.bind_some,
      hsees.own field hfield node put hread state]
    rfl
  · rw [valueIn, valueIn, hsees.other field hfield node put hread name hname hsame state,
      List.lookup_cons, beq_false_of_ne hsame]

/-- After a table a field holds what the entries mean under its name, or what it held. -/
theorem get_ofMembers {members : List (Key × Node × Closing)} {seen seen' : List String}
    {state state' : σ} (h : record.ofMembers depth members seen state = .ok (seen', state')) :
    get name state' =
      valueIn meaning (members.filterMap (namedNode? record.names)) name (get name state) := by
  induction members generalizing seen state with
  | nil =>
    rw [ofMembers] at h
    cases h
    rfl
  | cons member rest ih =>
    have haccepts := (accepts_of_ofMembers h).1
    obtain ⟨found, hkey, ⟨hfield, -, hrest⟩ | ⟨field, put, hfield, -, hread, hrest⟩⟩ :=
      ofMembers_cons_ok h
    · rw [List.filterMap_cons_none (namedNode?_unknown hkey hfield)]
      exact ih hrest
    · rw [List.filterMap_cons_some (namedNode?_known hkey hfield)] at haccepts ⊢
      obtain ⟨hmem, rfl⟩ := field?_name hfield
      have hnew := (List.nodup_cons.mp haccepts.once).1
      rw [ih hrest, valueIn_cons hsees hname state hmem hread hnew]

/-- After a list a field holds what stands in its place, or what it held. -/
theorem get_ofItems {stop : Option Break} {fields : List (Field σ)}
    (hfields : ∀ field ∈ fields, field ∈ record.fields) (honce : (fields.map Field.name).Nodup)
    {items : List (Node × Closing)} {count : Nat} {closing : Closing} {state state' : σ}
    (h : record.ofItems depth stop fields items count closing state = .ok state') :
    get name state' =
      valueIn meaning ((fields.map Field.name).zip (items.map Prod.fst)) name (get name state) := by
  induction fields generalizing items count closing state with
  | nil =>
    obtain rfl := ofItems_nil_ok h
    rfl
  | cons field fields ih =>
    have hfields' : ∀ other ∈ fields, other ∈ record.fields :=
      fun other hother => hfields other (List.mem_cons_of_mem field hother)
    rw [List.map_cons, List.nodup_cons] at honce
    obtain ⟨rfl, -, -, hrest⟩ | ⟨item, rest, put, rfl, hread, hrest⟩ := ofItems_cons_ok h
    · simpa using ih hfields' honce.2 hrest
    · have hnew : field.name ∉
          ((fields.map Field.name).zip (rest.map Prod.fst)).map Prod.fst := by
        rw [map_fst_zip]
        exact fun hmem => honce.1 (List.mem_of_mem_take hmem)
      rw [ih hfields' honce.2 hrest]
      exact (valueIn_cons hsees hname state (hfields field List.mem_cons_self) hread hnew).symm

end Sees

/-- A list is read only if each item is read by the field in its place. -/
theorem accepts_of_ofItems {stop : Option Break} {fields : List (Field σ)}
    {items : List (Node × Closing)} {count : Nat} {closing : Closing} {state state' : σ}
    (h : record.ofItems depth stop fields items count closing state = .ok state') :
    ∀ pair ∈ fields.zip (items.map Prod.fst), ∃ put, pair.1.read depth pair.2 = .ok put := by
  induction fields generalizing items count closing state with
  | nil => simp
  | cons field fields ih =>
    obtain ⟨rfl, -⟩ | ⟨item, rest, put, rfl, hread, hrest⟩ := ofItems_cons_ok h
    · simp
    · intro pair hpair
      rcases List.mem_cons.mp hpair with rfl | hlater
      · exact ⟨put, hread⟩
      · exact ih hrest pair hlater

/-- Conversely, a list whose items the fields read is read as a whole. -/
theorem ofItems_of_accepts {fields : List (Field σ)} {items : List (Node × Closing)}
    {closing : Closing} (count : Nat) (state : σ)
    (hlenient : ∀ field ∈ fields, field.inList = false) (hclosing : closing.fault = none)
    (hitems : ∀ item ∈ items, item.2.fault = none)
    (hreads : ∀ pair ∈ fields.zip (items.map Prod.fst), ∃ put, pair.1.read depth pair.2 = .ok put) :
    ∃ state', record.ofItems depth none fields items count closing state = .ok state' := by
  induction fields generalizing items count closing state with
  | nil => exact ⟨state, by rw [ofItems, hclosing]⟩
  | cons field fields ih =>
    have hlenient' : ∀ other ∈ fields, other.inList = false :=
      fun other hother => hlenient other (List.mem_cons_of_mem field hother)
    cases items with
    | nil =>
      obtain ⟨state', hrest⟩ := ih (count + 1) state hlenient' hclosing hitems (by simp)
      refine ⟨state', ?_⟩
      rw [ofItems]
      simpa [hlenient field List.mem_cons_self] using hrest
    | cons item rest =>
      obtain ⟨node, closing'⟩ := item
      obtain ⟨put, hread⟩ := hreads (field, node) (by simp)
      obtain ⟨state', hrest⟩ := ih (count + 1) (put state) hlenient'
        (hitems (node, closing') List.mem_cons_self)
        (fun item hitem => hitems item (List.mem_cons_of_mem _ hitem))
        (fun pair hpair => hreads pair (List.mem_cons_of_mem _ hpair))
      exact ⟨state', by rw [ofItems, hread]; exact hrest⟩

/-- The fields with what a list gives for them are the names with the same. -/
theorem accepts_zip_iff (hnames : record.names.Nodup) (nodes : List Node) :
    record.Accepts depth (record.names.zip nodes) ↔
      ∀ pair ∈ record.fields.zip nodes, ∃ put, pair.1.read depth pair.2 = .ok put := by
  have hzip : record.names.zip nodes =
      (record.fields.zip nodes).map fun pair => (pair.1.name, pair.2) := by
    rw [names, List.zip_map_left]
    rfl
  constructor
  · intro haccepts pair hpair
    obtain ⟨field, hfield, put, hread⟩ :=
      haccepts.reads (pair.1.name, pair.2) (hzip ▸ List.mem_map_of_mem hpair)
    rw [field?_of_mem hnames (List.of_mem_zip hpair).1] at hfield
    cases hfield
    exact ⟨put, hread⟩
  · intro hreads
    refine ⟨by rw [map_fst_zip]; exact hnames.sublist (List.take_sublist _ _), ?_⟩
    intro entry hentry
    rw [hzip] at hentry
    obtain ⟨pair, hpair, rfl⟩ := List.mem_map.mp hentry
    exact ⟨pair.1, field?_of_mem hnames (List.of_mem_zip hpair).1, hreads pair hpair⟩

/-- A record is read from a table or from a list that does not nest too deeply. Of a table nothing
that has to be there is missing. -/
theorem shape_ok {node : Node} {state : σ} (h : record.shape depth node = .ok state) :
    1 < depth ∧
      ((∃ mark opened members seen, node = .table mark opened members none ∧
          record.ofMembers (depth - 1) members [] record.start = .ok (seen, state) ∧
          ∀ field ∈ record.fields, field.inTable = true → field.name ∈ seen) ∨
        ∃ mark opened items stop, node = .list mark opened items stop ∧
          record.ofItems (depth - 1) stop record.fields items 0 opened record.start =
            .ok state) := by
  cases node with
  | list mark opened items stop =>
    rw [Record.shape] at h
    by_cases hdepth : depth ≤ 1
    · rw [if_pos hdepth] at h
      cases h
    · rw [if_neg hdepth] at h
      exact ⟨Nat.lt_of_not_le hdepth, .inr ⟨mark, opened, items, stop, rfl, h⟩⟩
  | table mark opened members stop =>
    rw [Record.shape] at h
    by_cases hdepth : depth ≤ 1
    · rw [if_pos hdepth] at h
      cases h
    · rw [if_neg hdepth] at h
      refine ⟨Nat.lt_of_not_le hdepth, .inl ?_⟩
      cases hread : record.ofMembers (depth - 1) members [] record.start with
      | error failure =>
        rw [hread] at h
        cases h
      | ok out =>
        obtain ⟨seen, found⟩ := out
        rw [hread] at h
        cases stop with
        | some trouble => cases h
        | none =>
          simp only [bind, Except.bind, Shape.whole, pure, Except.pure] at h
          split at h
          · cases h
          · next hnone =>
            obtain rfl := Except.ok.inj h
            refine ⟨mark, opened, members, seen, rfl, hread, fun field hfield hneeded => ?_⟩
            simpa [hneeded] using List.find?_eq_none.mp hnone field hfield
  | _ => simp [Record.shape] at h

/-- What is read was given, and all that was given could be read. -/
theorem accepts_of_shape {node : Node} {state : σ} (hnames : record.names.Nodup)
    (h : record.shape (depth + 1) node = .ok state) :
    ∃ entries, node.given? record.names = some entries ∧ record.Accepts depth entries ∧
      ∀ {β : Type} {get : String → σ → β} {meaning : String → Node → Option β},
        record.Sees depth get meaning → ∀ name ∈ record.names,
          get name state = valueIn meaning entries name (get name record.start) := by
  obtain ⟨-, ⟨_, _, members, seen, rfl, hread, -⟩ | ⟨_, _, items, stop, rfl, hread⟩⟩ := shape_ok h
  · refine ⟨_, rfl, (accepts_of_ofMembers hread).1, ?_⟩
    intro β get meaning hsees name hname
    exact get_ofMembers hsees hname hread
  · refine ⟨_, rfl, ?_, ?_⟩
    · rw [accepts_zip_iff hnames]
      exact accepts_of_ofItems hread
    · intro β get meaning hsees name hname
      exact get_ofItems hsees hname (fun _ hfield => hfield) hnames hread

/-- What can be read is read, whatever else there is that can be passed over. -/
theorem shape_of_accepts {node : Node} {entries : List (String × Node)}
    (hnames : record.names.Nodup) (hlenient : record.IsLenient) (hdepth : 0 < depth)
    (hwhole : node.IsWhole) (hskip : node.skip = none)
    (hgiven : node.given? record.names = some entries) (haccepts : record.Accepts depth entries) :
    ∃ state, record.shape (depth + 1) node = .ok state := by
  have hdeep : ¬ depth + 1 ≤ 1 := by omega
  cases node with
  | broken trouble => simp [Node.given?] at hgiven
  | unreadable fault => simp [Node.given?] at hgiven
  | scalar mark value => simp [Node.given?] at hgiven
  | list mark opened items stop =>
    obtain ⟨rfl, hopened, hitems⟩ := hwhole
    obtain rfl : record.names.zip (items.map Prod.fst) = entries := Option.some.inj hgiven
    obtain ⟨state, hread⟩ := ofItems_of_accepts 0 record.start
      (fun field hfield => (hlenient field hfield).2) hopened hitems
      ((accepts_zip_iff hnames _).mp haccepts)
    refine ⟨state, ?_⟩
    rw [Record.shape, if_neg hdeep]
    exact hread
  | table mark opened members stop =>
    obtain ⟨rfl, hkeys⟩ := hwhole
    obtain rfl : members.filterMap (namedNode? record.names) = entries := Option.some.inj hgiven
    have hskips : ∀ member ∈ members, member.2.1.skip = none := by
      rw [← skipMembers_eq_none_iff]
      simpa [Node.skip] using hskip
    obtain ⟨seen, state, hread⟩ :=
      ofMembers_of_accepts record.start hkeys hskips haccepts fun _ _ => List.not_mem_nil
    refine ⟨state, ?_⟩
    rw [Record.shape, if_neg hdeep]
    have hnone : record.fields.find? (fun field => field.inTable && !seen.contains field.name) =
        none := by
      rw [List.find?_eq_none]
      intro field hfield
      simp [(hlenient field hfield).1]
    simp only [Nat.add_sub_cancel, hread, bind, Except.bind, pure, Except.pure, Shape.whole, hnone]

end Record

end Shape

end DashboardCheck.Document
