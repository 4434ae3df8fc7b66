import DashboardCheck.Proofs.Document.Table

/-!
# Documents and the values they write

A document in which no table has a name twice writes an object for each of its tables, and what the
object has under a name is written by the one entry of that name. So what a shape makes of such a
document can be told from the value that it writes, whatever the order of its parts.
-/
namespace DashboardCheck.Document

mutual

def Node.namesOnce : Node → Bool
  | .list _ _ items _ => namesOnceInItems items
  | .table _ _ members _ =>
    decide (members.map fun member => member.1.name.toOption).Nodup && namesOnceInMembers members
  | _ => true

def namesOnceInItems : List (Node × Closing) → Bool
  | [] => true
  | (node, _) :: rest => node.namesOnce && namesOnceInItems rest

def namesOnceInMembers : List (Key × Node × Closing) → Bool
  | [] => true
  | (_, node, _) :: rest => node.namesOnce && namesOnceInMembers rest

end

theorem namesOnceInMembers_iff {members : Members} :
    namesOnceInMembers members = true ↔ ∀ member ∈ members, member.2.1.namesOnce = true := by
  induction members with
  | nil => simp [namesOnceInMembers]
  | cons member rest ih => simp [namesOnceInMembers, ih]

namespace Shape

variable {depth : Nat} {node : Node} {value : Json.Value}

/-- A list is read item by item. -/
theorem items_eq_ok_iff {α : Type} {read : Node → Except Failure α}
    {found : List (Node × Closing)} {values : List α} :
    items read found = .ok values ↔
      List.Forall₂ (fun item value => read item.1 = .ok value) found values := by
  induction found generalizing values with
  | nil => simp [items, eq_comm]
  | cons item rest ih =>
    obtain ⟨child, closing⟩ := item
    rw [items, List.forall₂_cons_left_iff]
    cases hread : read child with
    | error failure => simp [Except.mapError, bind, Except.bind]
    | ok value =>
      have hrest : ∀ found', List.Forall₂ (fun item value => read item.1 = .ok value) rest found' ↔
          items read rest = .ok found' := fun _ => ih.symm
      simp only [Except.ok.injEq, hrest]
      cases items read rest with
      | error failure => simp [Except.mapError, bind, Except.bind]
      | ok values' => simp [Except.mapError, bind, Except.bind, pure, Except.pure, eq_comm]

/-- A list that is read is whole, and so are its items. -/
theorem any_list {mark : Nat} {opened : Closing} {found : List (Node × Closing)}
    {stop : Option Break} (h : any depth (.list mark opened found stop) = .ok value) :
    ∃ below values, depth = below + 2 ∧ items (any (below + 1)) found = .ok values ∧
      stop = none ∧ value = .array values := by
  cases depth with
  | zero => simp [any] at h
  | succ depth =>
    rw [any] at h
    cases depth with
    | zero => cases h
    | succ below =>
      simp only [Nat.add_eq_zero_iff, Nat.one_ne_zero, and_false, if_false] at h
      cases hread : items (any (below + 1)) found with
      | error failure =>
        rw [hread] at h
        cases h
      | ok values =>
        rw [hread] at h
        cases stop with
        | some trouble => cases h
        | none =>
          cases h
          exact ⟨below, values, rfl, hread, rfl, rfl⟩

/-- A table that is read is whole, and so are its entries. -/
theorem any_table {mark : Nat} {opened : Closing} {members : Members} {stop : Option Break}
    (h : any depth (.table mark opened members stop) = .ok value) :
    ∃ below found, depth = below + 2 ∧
      List.Forall₂ (ReadsAs (any (below + 1))) members found ∧
      stop = none ∧ value = .ofMembers found := by
  cases depth with
  | zero => simp [any] at h
  | succ depth =>
    rw [any] at h
    cases depth with
    | zero => cases h
    | succ below =>
      simp only [Nat.add_eq_zero_iff, Nat.one_ne_zero, and_false, if_false] at h
      cases hread : entries (any (below + 1)) members with
      | error failure =>
        rw [hread] at h
        cases h
      | ok found =>
        rw [hread] at h
        cases stop with
        | some trouble => cases h
        | none =>
          cases h
          exact ⟨below, found, rfl, entries_eq_ok_iff.mp hread, rfl, rfl⟩

/-- A value without parts is read from a node without parts. -/
theorem any_scalar (h : any depth node = .ok value) (harray : ∀ items, value ≠ .array items)
    (hobject : ∀ members, value ≠ .object members) :
    ∃ mark found, node = .scalar mark found ∧ any depth (.scalar mark found) = .ok value := by
  cases node with
  | scalar mark found => exact ⟨mark, found, rfl, h⟩
  | table mark opened members stop =>
    obtain ⟨_, found, -, -, -, hvalue⟩ := any_table h
    exact absurd hvalue (hobject _)
  | list mark opened found stop =>
    obtain ⟨_, values, -, -, -, hvalue⟩ := any_list h
    exact absurd hvalue (harray values)
  | broken trouble => simp [any, Node.mismatch] at h
  | unreadable fault => simp [any, Node.mismatch] at h

theorem any_string {s : String} (h : any depth node = .ok (.string s)) :
    ∃ mark, node = .scalar mark (.string s) := by
  obtain ⟨mark, found, rfl, hread⟩ := any_scalar h (by simp) (by simp)
  cases found <;> simp [any] at hread
  exact ⟨mark, by rw [hread]⟩

theorem skipItems_eq_none_iff {found : List (Node × Closing)} :
    skipItems found = none ↔ ∀ item ∈ found, item.1.skip = none := by
  induction found with
  | nil => simp [skipItems]
  | cons item rest ih => simp [skipItems, ih]

/-- What can be read can be passed over. -/
theorem skip_of_any (h : any depth node = .ok value) : node.skip = none := by
  induction depth using Nat.strongRecOn generalizing node value with
  | ind depth ih =>
    cases node with
    | broken trouble => simp [any, Node.mismatch] at h
    | unreadable fault => rfl
    | scalar mark found => rfl
    | list mark opened found stop =>
      obtain ⟨below, values, rfl, hitems, rfl, -⟩ := any_list h
      have hskips : skipItems found = none := by
        rw [skipItems_eq_none_iff]
        intro item hitem
        obtain ⟨value, -, hread⟩ := (forall₂_mem (items_eq_ok_iff.mp hitems)).1 item hitem
        exact ih (below + 1) (by omega) hread
      simp [Node.skip, hskips]
    | table mark opened members stop =>
      obtain ⟨below, found, rfl, hmembers, rfl, -⟩ := any_table h
      have hskips : skipMembers members = none := by
        rw [skipMembers_eq_none_iff]
        intro member hmember
        obtain ⟨entry, -, -, hread⟩ := (forall₂_mem hmembers).1 member hmember
        exact ih (below + 1) (by omega) hread
      simp [Node.skip, hskips]

end Shape

/-- A node writes this value, and no table in it has a name twice. -/
structure Node.Writes (node : Node) (depth : Nat) (value : Json.Value) : Prop where
  read : Shape.any depth node = .ok value
  once : node.namesOnce = true

/-- The entries of a table write those of an object, each under its name. -/
def WriteEach (depth : Nat) (members : Members) (entries : List (String × Json.Value)) : Prop :=
  List.Forall₂ (fun member entry =>
    member.1.name = .ok entry.1 ∧ member.2.1.Writes depth entry.2) members entries

/-- Entries that are read as values, none with a name twice, write these values. -/
theorem writeEach_of_reads {depth : Nat} {members : Members}
    {entries : List (String × Json.Value)}
    (h : List.Forall₂ (Shape.ReadsAs (Shape.any depth)) members entries)
    (honce : ∀ member ∈ members, member.2.1.namesOnce = true) :
    WriteEach depth members entries := by
  induction h with
  | nil => exact .nil
  | cons hread _ ih =>
    obtain ⟨hhead, hrest⟩ := List.forall_mem_cons.mp honce
    exact .cons ⟨hread.1, hread.2, hhead⟩ (ih hrest)

variable {node : Node} {depth : Nat} {dict : Dict Json.Value}

/-- A value without parts is written by a node without parts. -/
theorem Node.Writes.scalar {value : Json.Value} (h : node.Writes depth value)
    (harray : ∀ items, value ≠ .array items) (hobject : ∀ members, value ≠ .object members) :
    ∃ mark found, node = .scalar mark found ∧
      Shape.any depth (.scalar mark found) = .ok value :=
  Shape.any_scalar h.read harray hobject

theorem Node.Writes.string {s : String} (h : node.Writes depth (.string s)) :
    ∃ mark, node = .scalar mark (.string s) :=
  Shape.any_string h.read

theorem Node.Writes.bool {b : Bool} (h : node.Writes depth (.bool b)) :
    ∃ mark, node = .scalar mark (.bool b) := by
  obtain ⟨mark, found, rfl, hread⟩ := h.scalar (by simp) (by simp)
  cases found <;> simp [Shape.any] at hread
  exact ⟨mark, by rw [hread]⟩

theorem Node.Writes.null (h : node.Writes depth .null) : ∃ mark, node = .scalar mark .null := by
  obtain ⟨mark, found, rfl, hread⟩ := h.scalar (by simp) (by simp)
  cases found <;> simp [Shape.any] at hread
  exact ⟨mark, rfl⟩

/-- An object is written by a table, entry by entry. -/
theorem Node.Writes.object (h : node.Writes depth (.object dict)) :
    ∃ mark opened members entries below, node = .table mark opened members none ∧
      depth = below + 2 ∧ WriteEach (below + 1) members entries ∧
      (entries.map Prod.fst).Nodup ∧ dict = Dict.ofList entries := by
  obtain ⟨hread, honce⟩ := h
  cases node with
  | table mark opened members stop =>
    obtain ⟨below, entries, rfl, hentries, rfl, hdict⟩ := Shape.any_table hread
    rw [Node.namesOnce, Bool.and_eq_true, decide_eq_true_eq, namesOnceInMembers_iff,
      Shape.names_of_entries hentries] at honce
    obtain ⟨hnames, hmembers⟩ := honce
    have hsome : (entries.map fun entry => some entry.1) = (entries.map Prod.fst).map some := by
      rw [List.map_map]
      rfl
    rw [hsome] at hnames
    exact ⟨mark, opened, members, entries, below, rfl, rfl,
      writeEach_of_reads hentries hmembers, hnames.of_map _, Json.Value.object.inj hdict⟩
  | list mark opened found stop =>
    obtain ⟨_, _, -, -, -, hvalue⟩ := Shape.any_list hread
    cases hvalue
  | scalar mark found => cases found <;> simp [Shape.any] at hread
  | broken trouble => simp [Shape.any, Node.mismatch] at hread
  | unreadable fault => simp [Shape.any, Node.mismatch] at hread

/-- What an object has under a name is written by the one entry of that name. -/
theorem WriteEach.filter_named {members : Members} {entries : List (String × Json.Value)}
    {name : String} {value : Json.Value} (h : WriteEach depth members entries)
    (hnames : (entries.map Prod.fst).Nodup) (hentry : (name, value) ∈ entries) :
    ∃ key child closing,
      members.filter (fun member => member.1.name.toOption == some name) =
        [(key, child, closing)] ∧ child.Writes depth value := by
  induction h with
  | nil => cases hentry
  | @cons member entry members entries hhead hrest ih =>
    obtain ⟨key, child, closing⟩ := member
    have hkey : key.name = .ok entry.1 := hhead.1
    obtain ⟨hnot, hnames⟩ := List.nodup_cons.mp hnames
    by_cases hname : entry.1 = name
    · obtain rfl : entry = (name, value) := by
        refine (List.mem_cons.mp hentry).elim Eq.symm fun hlater => ?_
        exact absurd (List.mem_map.mpr ⟨_, hlater, hname.symm⟩) hnot
      have hnone : members.filter (fun other => other.1.name.toOption == some name) = [] := by
        rw [List.filter_eq_nil_iff]
        intro other hother hsame
        obtain ⟨entry, hlater, hother, -⟩ := (Shape.forall₂_mem hrest).1 other hother
        obtain rfl : entry.1 = name := by simpa [hother, Except.toOption] using hsame
        exact hnot (List.mem_map.mpr ⟨entry, hlater, rfl⟩)
      refine ⟨key, child, closing, ?_, hhead.2⟩
      rw [List.filter_cons_of_pos (by simp [hkey, Except.toOption]), hnone]
    · have hlater : (name, value) ∈ entries :=
        (List.mem_cons.mp hentry).resolve_left fun hsame => hname (by rw [← hsame])
      rw [List.filter_cons_of_neg (by simpa [hkey, Except.toOption] using hname)]
      exact ih hnames hlater

namespace Shape

variable {α σ : Type}

/-- What writes anything but null is read as if it could not be null. -/
theorem optional_of_writes {shape : Shape α} {value : Json.Value} (h : node.Writes depth value)
    (hvalue : value ≠ .null) : optional shape depth node = (shape depth node).map some := by
  cases node with
  | scalar mark found =>
    cases found with
    | null =>
      have hread := h.read
      simp only [any, Except.ok.injEq] at hread
      exact absurd hread.symm hvalue
    | _ => rfl
  | _ => rfl

/-- What reads every value reads every entry that writes one. -/
theorem exists_reads {read : Node → Except Failure α} {R : Json.Value → α → Prop}
    {members : Members} {entries : List (String × Json.Value)} (h : WriteEach depth members entries)
    (hread : ∀ entry ∈ entries, ∀ child : Node, child.Writes depth entry.2 →
      ∃ a, read child = .ok a ∧ R entry.2 a) :
    ∃ found, List.Forall₂ (ReadsAs read) members found ∧
      List.Forall₂ (fun entry result => entry.1 = result.1 ∧ R entry.2 result.2) entries found := by
  induction h with
  | nil => exact ⟨[], .nil, .nil⟩
  | @cons member entry members entries hhead hrest ih =>
    obtain ⟨hfirst, hmore⟩ := List.forall_mem_cons.mp hread
    obtain ⟨a, hchild, ha⟩ := hfirst member.2.1 hhead.2
    obtain ⟨found, hfound, hrelated⟩ := ih hmore
    exact ⟨(entry.1, a) :: found, .cons ⟨hhead.1, hchild⟩ hfound, .cons ⟨rfl, ha⟩ hrelated⟩

/-- A table under any names is read from an object if all that is under its names can be read. -/
theorem dictOf_of_writes {shape : Shape α} {R : Json.Value → α → Prop}
    (h : node.Writes depth (.object dict))
    (hshape : ∀ name value, Dict.get? dict name = some value →
      ∀ child : Node, child.Writes (depth - 1) value →
        ∃ a, shape (depth - 1) child = .ok a ∧ R value a) :
    ∃ found, dictOf shape depth node = .ok found ∧ Dict.Ascending found ∧
      (∀ name, name ∈ Dict.names found ↔ name ∈ Dict.names dict) ∧
      ∀ name a, Dict.get? found name = some a →
        ∃ value, Dict.get? dict name = some value ∧ R value a := by
  obtain ⟨mark, opened, members, entries, below, rfl, rfl, hentries, hnames, rfl⟩ := h.object
  have hdict : ∀ entry ∈ entries, ∀ child : Node, child.Writes (below + 1) entry.2 →
      ∃ a, shape (below + 1) child = .ok a ∧ R entry.2 a :=
    fun entry hentry => hshape entry.1 entry.2 (Dict.get?_ofList hnames hentry)
  obtain ⟨found, hfound, hrelated⟩ := exists_reads hentries hdict
  have hsame : entries.map Prod.fst = found.map Prod.fst := by
    clear * - hrelated
    induction hrelated with
    | nil => rfl
    | cons hhead _ ih => rw [List.map_cons, List.map_cons, hhead.1, ih]
  refine ⟨Dict.ofList found, ?_, Dict.ascending_ofList found, ?_, ?_⟩
  · have hread : Shape.entries (shape (below + 2 - 1)) members = .ok found :=
      entries_eq_ok_iff.mpr hfound
    rw [dictOf, if_neg (by omega), hread]
    rfl
  · intro name
    rw [Dict.mem_names_ofList, Dict.mem_names_ofList, hsame]
  · intro name a hget
    have hmem : (name, a) ∈ found := Dict.mem_of_mem_ofList (Dict.mem_of_get? hget)
    obtain ⟨entry, hentry, hname, ha⟩ := (forall₂_mem hrelated).2 (name, a) hmem
    obtain rfl : entry.1 = name := hname
    exact ⟨entry.2, Dict.get?_ofList hnames hentry, ha⟩

/-- What was read of an object under any names has, under each name of it, what the value there was
read as. -/
theorem get?_dictOf_of_writes {shape : Shape α} {found : Dict α} {name : String}
    {value : Json.Value} (h : node.Writes depth (.object dict))
    (hread : dictOf shape depth node = .ok found) (hget : Dict.get? dict name = some value) :
    ∃ child a, child.Writes (depth - 1) value ∧ shape (depth - 1) child = .ok a ∧
      Dict.get? found name = some a := by
  obtain ⟨mark, opened, members, entries, below, rfl, rfl, hentries, honce, rfl⟩ := h.object
  obtain ⟨_, _, _, results, hnode, hresults, rfl⟩ := dictOf_eq_ok hread
  cases hnode
  have hkeys : entries.map (fun entry => some entry.1) =
      results.map fun result => some result.1 := by
    rw [← names_of_entries (hentries.imp fun _ _ hwrite => ⟨hwrite.1, hwrite.2.read⟩),
      names_of_entries hresults]
  have hresultNames : (results.map Prod.fst).Nodup := by
    have hsame : entries.map Prod.fst = results.map Prod.fst := by
      simpa using congrArg (List.filterMap id) hkeys
    exact hsame ▸ honce
  have hentry : (name, value) ∈ entries := Dict.mem_of_mem_ofList (Dict.mem_of_get? hget)
  obtain ⟨member, hmember, hkey, hwrites⟩ := (forall₂_mem hentries).2 _ hentry
  obtain ⟨result, hresult, hkey', hresultRead⟩ := (forall₂_mem hresults).1 member hmember
  obtain rfl : name = result.1 := Except.ok.inj (hkey.symm.trans hkey')
  exact ⟨member.2.1, result.2, hwrites, hresultRead, Dict.get?_ofList hresultNames hresult⟩

/-- Looks at one of these fields: it leaves what its shape reads, and no other changes that. -/
structure SeesField (fields : List (Field σ)) (depth : Nat) (name : String) (shape : Shape α)
    (get : σ → α) : Prop where
  own : ∀ field ∈ fields, field.name = name → ∀ node put, field.read depth node = .ok put →
    ∀ state, shape depth node = .ok (get (put state))
  other : ∀ field ∈ fields, field.name ≠ name → ∀ node put, field.read depth node = .ok put →
    ∀ state, get (put state) = get state

namespace SeesField

variable {fields : List (Field σ)} {name other : String} {shape : Shape α} {get : σ → α}

theorem nil : SeesField [] depth name shape get :=
  ⟨fun _ hfield => absurd hfield List.not_mem_nil, fun _ hfield => absurd hfield List.not_mem_nil⟩

/-- The field that is looked at. -/
theorem cons_own {put : α → σ → σ} (h : SeesField fields depth name shape get)
    (hget : ∀ a state, get (put a state) = a) :
    SeesField (.withDefault name shape put :: fields) depth name shape get := by
  refine ⟨List.forall_mem_cons.mpr ⟨?_, h.own⟩, List.forall_mem_cons.mpr ⟨?_, h.other⟩⟩
  · intro _ node f hread state
    obtain ⟨a, ha, rfl⟩ := withDefault_read_eq_ok_iff.mp hread
    rw [ha, hget]
  · exact fun hne => absurd rfl hne

/-- A field that is not. -/
theorem cons_other {β : Type} {shape' : Shape β} {put : β → σ → σ}
    (h : SeesField fields depth name shape get) (hne : other ≠ name)
    (hget : ∀ b state, get (put b state) = get state) :
    SeesField (.withDefault other shape' put :: fields) depth name shape get := by
  refine ⟨List.forall_mem_cons.mpr ⟨?_, h.own⟩, List.forall_mem_cons.mpr ⟨?_, h.other⟩⟩
  · exact fun hsame => absurd hsame hne
  · intro _ node f hread state
    obtain ⟨b, -, rfl⟩ := withDefault_read_eq_ok_iff.mp hread
    exact hget b state

end SeesField

/-- Fields that read all that an object holds under their names. -/
def ReadEach (fields : List (Field σ)) (depth : Nat) (dict : Dict Json.Value) : Prop :=
  ∀ field ∈ fields, ∀ value, Dict.get? dict field.name = some value →
    ∀ child : Node, child.Writes depth value → ∃ put, field.read depth child = .ok put

namespace ReadEach

variable {fields : List (Field σ)} {name : String} {shape : Shape α} {put : α → σ → σ}

theorem nil : ReadEach ([] : List (Field σ)) depth dict := by
  intro field hfield
  cases hfield

theorem cons (hfield : ∀ value, Dict.get? dict name = some value →
      ∀ child : Node, child.Writes depth value → ∃ a, shape depth child = .ok a)
    (hrest : ReadEach fields depth dict) :
    ReadEach (.withDefault name shape put :: fields) depth dict := by
  intro field hmem
  rcases List.mem_cons.mp hmem with rfl | hlater
  · intro value hvalue child hchild
    obtain ⟨a, hread⟩ := hfield value hvalue child hchild
    exact withDefault_reads hread
  · exact hrest field hlater

end ReadEach

namespace Record

variable {record : Record σ}

theorem namedNode?_eq_some_iff {names : List String} {member : Key × Node × Closing}
    {name : String} {child : Node} :
    namedNode? names member = some (name, child) ↔
      member.1.name = .ok name ∧ name ∈ names ∧ member.2.1 = child := by
  cases hkey : member.1.name with
  | error fault => simp [namedNode?, hkey, Except.toOption]
  | ok found =>
    by_cases hfound : found ∈ names
    · simp only [namedNode?, hkey, Except.toOption, Option.filter_some, List.contains_iff_mem,
        hfound, if_true, Option.map_some, Option.some.injEq, Prod.mk.injEq, Except.ok.injEq]
      constructor
      · rintro ⟨rfl, rfl⟩
        exact ⟨rfl, hfound, rfl⟩
      · rintro ⟨rfl, -, rfl⟩
        exact ⟨rfl, rfl⟩
    · simp only [namedNode?, hkey, Except.toOption, Option.filter_some, List.contains_iff_mem,
        hfound, if_false, Option.map_none, reduceCtorEq, Except.ok.injEq, false_iff]
      rintro ⟨rfl, hname, -⟩
      exact hfound hname

/-- What a table gives under the name of a field writes what the object has there. -/
theorem lookup_given {members : Members} {entries : List (String × Json.Value)}
    (h : WriteEach depth members entries) (hnames : (entries.map Prod.fst).Nodup) {name : String}
    (hname : name ∈ record.names) :
    match (members.filterMap (namedNode? record.names)).lookup name with
    | none => Dict.get? (Dict.ofList entries) name = none
    | some child => ∃ value, Dict.get? (Dict.ofList entries) name = some value ∧
        child.Writes depth value := by
  cases hlookup : (members.filterMap (namedNode? record.names)).lookup name with
  | none =>
    dsimp only
    rw [Dict.get?_eq_none_iff, Dict.mem_names_ofList]
    intro hname'
    obtain ⟨entry, hentry, rfl⟩ := List.mem_map.mp hname'
    obtain ⟨member, hmember, hkey, -⟩ := (forall₂_mem h).2 entry hentry
    have hgiven : (entry.1, member.2.1) ∈ members.filterMap (namedNode? record.names) :=
      List.mem_filterMap.mpr ⟨member, hmember, namedNode?_eq_some_iff.mpr ⟨hkey, hname, rfl⟩⟩
    simpa using List.lookup_eq_none_iff.mp hlookup _ hgiven
  | some child =>
    obtain ⟨earlier, later, hgiven, -⟩ := List.lookup_eq_some_iff.mp hlookup
    have hmem : (name, child) ∈ members.filterMap (namedNode? record.names) := by simp [hgiven]
    obtain ⟨member, hmember, hnamed⟩ := List.mem_filterMap.mp hmem
    obtain ⟨hkey, -, rfl⟩ := namedNode?_eq_some_iff.mp hnamed
    obtain ⟨entry, hentry, hkey', hwrites⟩ := (forall₂_mem h).1 member hmember
    obtain rfl : entry.1 = name := Except.ok.inj (hkey'.symm.trans hkey)
    exact ⟨entry.2, Dict.get?_ofList hnames hentry, hwrites⟩

/-- To look at one field is to look into the record and to see nothing of the others. -/
theorem sees_of_seesField {name : String} {shape : Shape α} {get : σ → α}
    (h : SeesField record.fields depth name shape get) :
    record.Sees depth (fun other state => if other = name then some (get state) else none)
      fun other node =>
        if other = name then (shape depth node).toOption.map some else some none where
  own field hfield node put hread state := by
    by_cases hname : field.name = name
    · rw [if_pos hname, if_pos hname, h.own field hfield hname node put hread state]
      rfl
    · rw [if_neg hname, if_neg hname]
  other field hfield node put hread other _ hne state := by
    by_cases hname : other = name
    · subst hname
      rw [if_pos rfl, if_pos rfl, h.other field hfield (Ne.symm hne) node put hread state]
    · rw [if_neg hname, if_neg hname]

/-- The names under which a record is given something are those of its fields, in the order of the
object. -/
theorem names_given {members : Members} {entries : List (String × Json.Value)}
    (h : WriteEach depth members entries) :
    (members.filterMap (namedNode? record.names)).map Prod.fst =
      (entries.map Prod.fst).filter fun name => record.names.contains name := by
  induction h with
  | nil => rfl
  | @cons member entry members entries hhead _ ih =>
    by_cases hname : entry.1 ∈ record.names
    · have hgiven : namedNode? record.names member = some (entry.1, member.2.1) :=
        namedNode?_eq_some_iff.mpr ⟨hhead.1, hname, rfl⟩
      rw [List.filterMap_cons_some hgiven, List.map_cons, List.map_cons,
        List.filter_cons_of_pos (by simpa using hname), ih]
    · have hgiven : namedNode? record.names member = none :=
        namedNode?_unknown hhead.1 (field?_eq_none_iff.mpr hname)
      rw [List.filterMap_cons_none hgiven, List.map_cons,
        List.filter_cons_of_neg (by simpa using hname), ih]

/-- A record accepts an object whose values its fields read. -/
theorem accepts_given {members : Members} {entries : List (String × Json.Value)}
    (hnames : record.names.Nodup) (h : WriteEach depth members entries)
    (honce : (entries.map Prod.fst).Nodup)
    (hreads : ReadEach record.fields depth (Dict.ofList entries)) :
    record.Accepts depth (members.filterMap (namedNode? record.names)) := by
  refine ⟨?_, ?_⟩
  · rw [names_given h]
    exact honce.filter _
  · rintro ⟨name, child⟩ hgiven
    obtain ⟨member, hmember, hnamed⟩ := List.mem_filterMap.mp hgiven
    obtain ⟨hkey, hname, rfl⟩ := namedNode?_eq_some_iff.mp hnamed
    obtain ⟨entry, hentry, hkey', hwrites⟩ := (forall₂_mem h).1 member hmember
    obtain rfl : entry.1 = name := Except.ok.inj (hkey'.symm.trans hkey)
    obtain ⟨field, hfield, hsame⟩ := List.mem_map.mp hname
    have hvalue : Dict.get? (Dict.ofList entries) field.name = some entry.2 := by
      rw [hsame]
      exact Dict.get?_ofList honce hentry
    obtain ⟨put, hput⟩ := hreads field hfield entry.2 hvalue member.2.1 hwrites
    have hfound := field?_of_mem hnames hfield
    rw [hsame] at hfound
    exact ⟨field, hfound, put, hput⟩

/-- What was read of an object: under the name of a field it holds what the shape of the field reads
of the value there, or what it holds by default. -/
theorem sees_of_writes {name : String} {shape : Shape α} {get : σ → α} {state : σ}
    (hnames : record.names.Nodup) (h : node.Writes depth (.object dict))
    (hstate : record.shape depth node = .ok state)
    (hsees : SeesField record.fields (depth - 1) name shape get) (hname : name ∈ record.names) :
    (Dict.get? dict name = none → get state = get record.start) ∧
      ∀ value, Dict.get? dict name = some value →
        ∃ child : Node, child.Writes (depth - 1) value ∧
          shape (depth - 1) child = .ok (get state) := by
  obtain ⟨mark, opened, members, entries, below, rfl, rfl, hentries, honce, rfl⟩ := h.object
  rw [Nat.add_succ_sub_one] at hsees ⊢
  let given := members.filterMap (namedNode? record.names)
  obtain ⟨_, hgiven, haccepts, hview⟩ := accepts_of_shape hnames hstate
  obtain rfl : given = _ := Option.some.inj hgiven
  have hget := hview (sees_of_seesField hsees) name hname
  rw [if_pos rfl, if_pos rfl, valueIn] at hget
  have hlookup := lookup_given hentries honce hname
  cases hfound : given.lookup name with
  | none =>
    rw [hfound] at hlookup hget
    refine ⟨fun _ => Option.some.inj hget, fun value hvalue => ?_⟩
    cases hlookup.symm.trans hvalue
  | some child =>
    rw [hfound] at hlookup hget
    obtain ⟨value, hvalue, hwrites⟩ := hlookup
    obtain ⟨earlier, later, hsplit, -⟩ := List.lookup_eq_some_iff.mp hfound
    obtain ⟨field, hfield, put, hput⟩ := haccepts.reads (name, child) (by simp [hsplit])
    obtain ⟨hmem, hsame⟩ := field?_name hfield
    have hread := hsees.own field hmem hsame child put hput record.start
    rw [Option.bind_some, if_pos rfl, hread] at hget
    have hheld : get state = get (put record.start) := Option.some.inj hget
    refine ⟨fun hnone => ?_, fun value' hvalue' => ?_⟩
    · cases hnone.symm.trans hvalue
    · obtain rfl : value = value' := Option.some.inj (hvalue.symm.trans hvalue')
      exact ⟨child, hwrites, by rw [hread, hheld]⟩

/-- A record is read from an object if all that it has under the names of fields can be read. Each
field then holds what was read of the value under its name, or what it holds by default. -/
theorem shape_of_writes (hnames : record.names.Nodup) (hlenient : record.IsLenient)
    (h : node.Writes depth (.object dict))
    (hreads : ReadEach record.fields (depth - 1) dict) :
    ∃ state, record.shape depth node = .ok state ∧
      ∀ {α : Type} {name : String} {shape : Shape α} {get : σ → α},
        SeesField record.fields (depth - 1) name shape get → name ∈ record.names →
        (Dict.get? dict name = none → get state = get record.start) ∧
        ∀ value, Dict.get? dict name = some value →
          ∃ child : Node, child.Writes (depth - 1) value ∧
            shape (depth - 1) child = .ok (get state) := by
  suffices hread : ∃ state, record.shape depth node = .ok state by
    obtain ⟨state, hstate⟩ := hread
    exact ⟨state, hstate, fun hsees hname => sees_of_writes hnames h hstate hsees hname⟩
  have hskip := skip_of_any h.read
  obtain ⟨mark, opened, members, entries, below, rfl, rfl, hentries, honce, rfl⟩ := h.object
  rw [Nat.add_succ_sub_one] at hreads
  have hwhole : (Node.table mark opened members none).IsWhole := by
    refine ⟨rfl, fun member hmember => ?_⟩
    obtain ⟨entry, -, hkey, -⟩ := (forall₂_mem hentries).1 member hmember
    exact ⟨entry.1, hkey⟩
  have haccepts : record.Accepts (below + 1) (members.filterMap (namedNode? record.names)) :=
    accepts_given hnames hentries honce hreads
  exact shape_of_accepts hnames hlenient (Nat.succ_pos below) hwhole hskip rfl haccepts

end Record

end Shape

end DashboardCheck.Document
