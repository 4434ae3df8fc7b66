import DashboardCheck.Proofs.Document.Value
import DashboardCheck.Proofs.Orchestrator.Status

/-!
# Statuses as values

A status is given by a JSON value: its applications by their names, and for each its series and its
units with their addresses. What else the value has makes no difference, and neither does the text
that writes it, as long as that has no name twice in a table.
-/
namespace DashboardCheck

open Document Json

/-- A dictionary has these entries, in any order, and what it has for each is related to it. -/
structure Dict.Lists {α β : Type} (R : α → β → Prop) (dict : Dict α)
    (entries : List (String × β)) : Prop where
  names : ∀ name, name ∈ Dict.names dict ↔ name ∈ entries.map Prod.fst
  values : ∀ entry ∈ entries, ∃ a, Dict.get? dict entry.1 = some a ∧ R a entry.2

theorem Dict.Lists.nil_of_nil {α β γ : Type} {R : α → β → Prop} {S : γ → β → Prop}
    {entries : List (String × β)} (h : Dict.Lists R [] entries) : Dict.Lists S [] entries := by
  refine ⟨h.names, fun entry hentry => ?_⟩
  obtain ⟨a, hget, -⟩ := h.values entry hentry
  cases hget

namespace Json.Value

/-- An object has a table under this name, or nothing if the table would be empty. -/
def HasTable (value : Value) (name : String) (dict : Dict Value) : Prop :=
  ∃ members, value = .object members ∧
    (Dict.get? members name = some (.object dict) ∨ Dict.get? members name = none ∧ dict = [])

/-- What a status says about a unit of this address that no other unit accompanies. -/
structure IsUnitAt (value : Value) (address : String) : Prop where
  address : value.get? "public-address" = some (.string address)
  leader : ∀ leader, value.get? "leader" = some leader → ∃ b, leader = .bool b
  subordinates : value.get? "subordinates" = none

/-- What a status says about an application with these units, by name and address. The series is
there if it is set. -/
structure IsApplication (value : Value) (series : Option String)
    (units : List (String × String)) : Prop where
  series : value.get? "series" = series.map .string
  base : value.get? "base" = none
  units : ∃ dict, value.HasTable "units" dict ∧ Dict.Lists IsUnitAt dict units

/-- What a status says if there are these applications, each with its series and its units. -/
def IsStatus (value : Value)
    (applications : List (String × Option String × List (String × String))) : Prop :=
  ∃ dict, value.HasTable "applications" dict ∧
    Dict.Lists (fun value entry => value.IsApplication entry.1 entry.2) dict applications

end Json.Value

/-- A text writes this value, and no table in it has a name twice. -/
structure Json.TextWrites (text : String) (value : Value) : Prop where
  parse : Json.parse text = .ok value
  once : (readText text).1.namesOnce = true

variable {depth : Nat} {node : Node}

/-- A table is read if each of its values can be, and what was read lists what the table lists. -/
theorem Dict.Lists.read {α β : Type} {R : Json.Value → β → Prop} {S : α → β → Prop}
    {shape : Shape α} {dict : Dict Json.Value} {entries : List (String × β)}
    (h : Dict.Lists R dict entries) (hnode : node.Writes depth (.object dict))
    (hshape : ∀ value b, R value b → ∀ child : Node, child.Writes (depth - 1) value →
      ∃ a, shape (depth - 1) child = .ok a ∧ S a b) :
    ∃ found, Shape.dictOf shape depth node = .ok found ∧ Dict.Lists S found entries := by
  have hvalue : ∀ name value, Dict.get? dict name = some value → ∃ b, R value b := by
    intro name value hget
    have hname : name ∈ Dict.names dict := List.mem_map.mpr ⟨_, Dict.mem_of_get? hget, rfl⟩
    obtain ⟨entry, hentry, rfl⟩ := List.mem_map.mp ((h.names name).mp hname)
    obtain ⟨value', hget', hR⟩ := h.values entry hentry
    obtain rfl : value = value' := Option.some.inj (hget.symm.trans hget')
    exact ⟨entry.2, hR⟩
  have hread : ∀ name value, Dict.get? dict name = some value →
      ∀ child : Node, child.Writes (depth - 1) value →
        ∃ a, shape (depth - 1) child = .ok a ∧ ∀ b, R value b → S a b := by
    intro name value hget child hchild
    obtain ⟨b, hb⟩ := hvalue name value hget
    obtain ⟨a, ha, -⟩ := hshape value b hb child hchild
    refine ⟨a, ha, fun b' hb' => ?_⟩
    obtain ⟨a', ha', hS⟩ := hshape value b' hb' child hchild
    obtain rfl : a = a' := Except.ok.inj (ha.symm.trans ha')
    exact hS
  obtain ⟨found, hfound, -, hnames, hvalues⟩ := Shape.dictOf_of_writes hnode hread
  refine ⟨found, hfound, fun name => (hnames name).trans (h.names name), fun entry hentry => ?_⟩
  obtain ⟨value, hget, hR⟩ := h.values entry hentry
  have hname : entry.1 ∈ Dict.names found :=
    (hnames entry.1).mpr (List.mem_map.mpr ⟨_, Dict.mem_of_get? hget, rfl⟩)
  obtain ⟨a, ha⟩ := Dict.exists_get?_of_mem_names hname
  obtain ⟨value', hget', hS⟩ := hvalues entry.1 a ha
  obtain rfl : value = value' := Option.some.inj (hget.symm.trans hget')
  exact ⟨a, ha, hS entry.2 hR⟩

section Table

variable {α β : Type} {R : Json.Value → β → Prop} {S : α → β → Prop} {shape : Shape α}
  {members dict : Dict Json.Value} {entries : List (String × β)} {name : String}
  (htable : Dict.get? members name = some (.object dict) ∨
    Dict.get? members name = none ∧ dict = [])
  (hlists : Dict.Lists R dict entries)
  (hshape : ∀ value b, R value b → ∀ child : Node, child.Writes (depth - 1) value →
    ∃ a, shape (depth - 1) child = .ok a ∧ S a b)
include htable hlists hshape

/-- The field for a table that an object has can be read. -/
theorem reads_of_table {value : Json.Value} (hvalue : Dict.get? members name = some value)
    {child : Node} (hchild : child.Writes depth value) :
    ∃ found, Shape.dictOf shape depth child = .ok found := by
  rcases htable with htable | ⟨hnone, -⟩
  · obtain rfl : Value.object dict = value := Option.some.inj (htable.symm.trans hvalue)
    obtain ⟨found, hfound, -⟩ := hlists.read hchild hshape
    exact ⟨found, hfound⟩
  · cases hnone.symm.trans hvalue

/-- What was read of the table, or nothing where it is left out, lists what the table lists. -/
theorem lists_of_table {found : Dict α} (hnone : Dict.get? members name = none → found = [])
    (hsome : ∀ value, Dict.get? members name = some value →
      ∃ child : Node, child.Writes depth value ∧ Shape.dictOf shape depth child = .ok found) :
    Dict.Lists S found entries := by
  rcases htable with htable | ⟨hempty, rfl⟩
  · obtain ⟨child, hchild, hread⟩ := hsome _ htable
    obtain ⟨found', hfound', hfinds⟩ := hlists.read hchild hshape
    obtain rfl : found' = found := Except.ok.inj (hfound'.symm.trans hread)
    exact hfinds
  · rw [hnone hempty]
    exact hlists.nil_of_nil

end Table

namespace UnitStatus

variable (nested : Shape UnitStatus)

theorem record_names : (record nested).names = ["public-address", "leader", "subordinates"] := rfl

theorem record_isLenient : (record nested).IsLenient := by
  simp [Shape.Record.IsLenient, record, Shape.Field.withDefault]

theorem record_sees_address : Shape.SeesField (record nested).fields depth "public-address"
    (Shape.optional Shape.text) address := by
  refine .cons_own (.cons_other (.cons_other .nil (by decide) ?_) (by decide) ?_) ?_ <;>
    exact fun _ _ => rfl

theorem record_sees_subordinates : Shape.SeesField (record nested).fields depth "subordinates"
    (Shape.dictOf nested) subordinates := by
  refine .cons_other (.cons_other (.cons_own .nil ?_) (by decide) ?_) (by decide) ?_ <;>
    exact fun _ _ => rfl

def IsAt (unit : UnitStatus) (address : String) : Prop :=
  unit.address = some address ∧ unit.subordinates = []

/-- A unit that is described is read, with its address. -/
theorem read_of_isUnitAt {levels : Nat} {value : Json.Value} {address : String}
    (h : value.IsUnitAt address) (hnode : node.Writes depth value) :
    ∃ unit, shapeUpTo (levels + 1) depth node = .ok unit ∧ unit.IsAt address := by
  cases value with
  | object dict =>
    have hreads : Shape.ReadEach (record (shapeUpTo levels)).fields (depth - 1) dict := by
      refine .cons ?_ (.cons ?_ (.cons ?_ .nil))
      · intro value hvalue child hchild
        obtain rfl : Value.string address = value := Option.some.inj (h.address.symm.trans hvalue)
        obtain ⟨mark, rfl⟩ := hchild.string
        exact ⟨_, rfl⟩
      · intro value hvalue child hchild
        obtain ⟨b, rfl⟩ := h.leader value hvalue
        obtain ⟨mark, rfl⟩ := hchild.bool
        exact ⟨_, rfl⟩
      · intro value hvalue
        cases h.subordinates.symm.trans hvalue
    have hnames : (record (shapeUpTo levels)).names.Nodup := by
      rw [record_names]
      decide
    obtain ⟨unit, hread, hview⟩ :=
      Shape.Record.shape_of_writes hnames (record_isLenient _) hnode hreads
    have haddress := hview (record_sees_address _) (by simp [record_names])
    have hsubordinates := hview (record_sees_subordinates _) (by simp [record_names])
    obtain ⟨child, hchild, hshape⟩ := haddress.2 _ h.address
    obtain ⟨mark, rfl⟩ := hchild.string
    exact ⟨unit, hread, (Except.ok.inj hshape).symm, hsubordinates.1 h.subordinates⟩
  | _ => cases h.address

end UnitStatus

namespace ApplicationStatus

theorem record_names : record.names = ["series", "base", "units"] := rfl

theorem record_isLenient : record.IsLenient := by
  simp [Shape.Record.IsLenient, record, Shape.Field.withDefault]

theorem record_sees_series : Shape.SeesField record.fields depth "series"
    (Shape.optional Shape.text) series := by
  refine .cons_own (.cons_other (.cons_other .nil (by decide) ?_) (by decide) ?_) ?_ <;>
    exact fun _ _ => rfl

theorem record_sees_base : Shape.SeesField record.fields depth "base"
    (Shape.optional Base.shape) base := by
  refine .cons_other (.cons_own (.cons_other .nil (by decide) ?_) ?_) (by decide) ?_ <;>
    exact fun _ _ => rfl

theorem record_sees_units : Shape.SeesField record.fields depth "units"
    (Shape.dictOf UnitStatus.shape) units := by
  refine .cons_other (.cons_other (.cons_own .nil ?_) (by decide) ?_) (by decide) ?_ <;>
    exact fun _ _ => rfl

/-- The application reports this series, no base, and these units. -/
structure Reports (app : ApplicationStatus) (series : Option String)
    (units : List (String × String)) : Prop where
  series : app.series = series
  base : app.base = none
  units : Dict.Lists UnitStatus.IsAt app.units units

/-- An application that is described is read, with its series and its units. -/
theorem read_of_isApplication {value : Json.Value} {series : Option String}
    {units : List (String × String)} (h : value.IsApplication series units)
    (hnode : node.Writes depth value) :
    ∃ app, shape depth node = .ok app ∧ app.Reports series units := by
  obtain ⟨dict, ⟨members, rfl, htable⟩, hunits⟩ := h.units
  have htext : ∀ value, Dict.get? members "series" = some value → ∃ s, value = .string s := by
    intro value hvalue
    have hseries : series.map Value.string = some value := h.series.symm.trans hvalue
    obtain ⟨s, -, rfl⟩ := Option.map_eq_some_iff.mp hseries
    exact ⟨s, rfl⟩
  have hunit : ∀ value address, value.IsUnitAt address →
      ∀ child : Node, child.Writes (depth - 1 - 1) value →
        ∃ unit, UnitStatus.shape (depth - 1 - 1) child = .ok unit ∧ unit.IsAt address :=
    fun _ _ hvalue _ hchild => UnitStatus.read_of_isUnitAt hvalue hchild
  have hreads : Shape.ReadEach record.fields (depth - 1) members := by
    refine .cons ?_ (.cons ?_ (.cons ?_ .nil))
    · intro value hvalue child hchild
      obtain ⟨s, rfl⟩ := htext value hvalue
      obtain ⟨mark, rfl⟩ := hchild.string
      exact ⟨_, rfl⟩
    · intro value hvalue
      cases h.base.symm.trans hvalue
    · exact fun value hvalue child hchild => reads_of_table htable hunits hunit hvalue hchild
  obtain ⟨app, hread, hview⟩ :=
    Shape.Record.shape_of_writes (by rw [record_names]; decide) record_isLenient hnode hreads
  have hseries := hview record_sees_series (by simp [record_names])
  have hbase := hview record_sees_base (by simp [record_names])
  have hfound := hview record_sees_units (by simp [record_names])
  refine ⟨app, hread, ?_, hbase.1 h.base, lists_of_table htable hunits hunit hfound.1 hfound.2⟩
  cases series with
  | none => exact hseries.1 h.series
  | some s =>
    obtain ⟨child, hchild, hshape⟩ := hseries.2 _ h.series
    obtain ⟨mark, rfl⟩ := hchild.string
    exact (Except.ok.inj hshape).symm

end ApplicationStatus

namespace ModelStatus

theorem record_names : record.names = ["applications"] := rfl

theorem record_isLenient : record.IsLenient := by
  simp [Shape.Record.IsLenient, record, Shape.Field.withDefault]

theorem record_sees_applications : Shape.SeesField record.fields depth "applications"
    (Shape.dictOf ApplicationStatus.shape) applications := by
  refine .cons_own .nil ?_
  exact fun _ _ => rfl

/-- The status reports these applications, each with its series and its units. -/
def Reports (s : ModelStatus)
    (applications : List (String × Option String × List (String × String))) : Prop :=
  Dict.Lists (fun app entry => app.Reports entry.1 entry.2) s.applications applications

/-- What is described is read. -/
theorem read_of_isStatus {value : Json.Value}
    {applications : List (String × Option String × List (String × String))}
    (h : value.IsStatus applications) (hnode : node.Writes depth value) :
    ∃ s, shape depth node = .ok s ∧ s.Reports applications := by
  obtain ⟨dict, ⟨members, rfl, htable⟩, hlists⟩ := h
  have happ : ∀ (value : Value) (entry : Option String × List (String × String)),
      value.IsApplication entry.1 entry.2 → ∀ child : Node, child.Writes (depth - 1 - 1) value →
        ∃ app, ApplicationStatus.shape (depth - 1 - 1) child = .ok app ∧
          app.Reports entry.1 entry.2 :=
    fun _ _ hvalue _ hchild => ApplicationStatus.read_of_isApplication hvalue hchild
  have hreads : Shape.ReadEach record.fields (depth - 1) members :=
    .cons (fun _ hvalue _ hchild => reads_of_table htable hlists happ hvalue hchild) .nil
  obtain ⟨s, hread, hview⟩ :=
    Shape.Record.shape_of_writes (by rw [record_names]; decide) record_isLenient hnode hreads
  have hfound := hview record_sees_applications (by simp [record_names])
  exact ⟨s, hread, lists_of_table htable hlists happ hfound.1 hfound.2⟩

/-- A text that writes what is described is a status that reports it. -/
theorem parse_of_isStatus {text : String} {value : Json.Value}
    {applications : List (String × Option String × List (String × String))}
    (htext : Json.TextWrites text value) (h : value.IsStatus applications) :
    ∃ s, parse text = .ok s ∧ s.Ordered ∧ s.Reports applications := by
  obtain ⟨hread, hrest⟩ := Json.read_eq_ok_iff.mp htext.parse
  obtain ⟨s, hs, hreports⟩ := read_of_isStatus h ⟨hread, htext.once⟩
  have hparse : parse text = .ok s :=
    parse_eq_ok_iff.mpr (Json.read_eq_ok_iff.mpr ⟨hs, hrest⟩)
  exact ⟨s, hparse, parse_ordered hparse, hreports⟩

end ModelStatus

end DashboardCheck
