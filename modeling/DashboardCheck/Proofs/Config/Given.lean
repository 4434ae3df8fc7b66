import DashboardCheck.Proofs.Config.Settings
import DashboardCheck.Proofs.Document.Record

/-!
# What a file says about settings

Of all that stands in a file, its entries under the names of settings decide whether it can be read
as a configuration, and what each setting holds then. All else only has to be such that it can be
passed over.
-/
namespace DashboardCheck

open Document

namespace Config

/-- What a file gives, by sections and names: the values without parts, and nothing in place of what
has parts. Names that are not known are left out. -/
abbrev Given := List (String × Option (List (String × Option Scalar)))

def Given.listed? (given : Given) (part name : String) : Option (Option Scalar) :=
  (given.lookup part).join.bind fun entries => entries.lookup name

def partNames : List String := Part.all.map Part.name

def settingNames (part : String) : List String :=
  (settings.filter fun s => s.part.name == part).map Setting.name

def sectionGiven (part : String) (node : Node) : Option (List (String × Option Scalar)) :=
  (node.given? (settingNames part)).map fun entries =>
    entries.map fun entry => (entry.1, entry.2.scalar?)

def givenBy (file : Node) : Given :=
  ((file.given? partNames).getD []).map fun entry => (entry.1, sectionGiven entry.1 entry.2)

def Given.value? (given : Given) (part name : String) : Option Scalar :=
  (given.listed? part name).join

/-- What a value in a file means for a setting: texts as they are, and numbers that fit. -/
def Setting.ofScalar? (s : Setting) (value : Scalar) : Option Held :=
  match s.slot, value with
  | .text .., .string text => some (.text text)
  | .number width .., .integer n =>
    if 0 ≤ n ∧ n ≤ width.limit then some (.number n.toNat) else none
  | _, _ => none

def Setting.fromFile? (s : Setting) (given : Given) : Option Held :=
  (given.value? s.part.name s.name).bind s.ofScalar?

theorem lookup_map {α β : Type} (f : String → α → β) (entries : List (String × α)) (name : String) :
    (entries.map fun entry => (entry.1, f entry.1 entry.2)).lookup name =
      (entries.lookup name).map (f name) := by
  induction entries with
  | nil => rfl
  | cons entry rest ih =>
    rw [List.map_cons, List.lookup_cons, List.lookup_cons, ih]
    cases hname : name == entry.1 with
    | false => rfl
    | true =>
      obtain rfl : name = entry.1 := by simpa using hname
      rfl

theorem mem_of_lookup {α : Type} {entries : List (String × α)} {name : String} {value : α}
    (h : entries.lookup name = some value) : (name, value) ∈ entries := by
  obtain ⟨earlier, later, rfl, -⟩ := List.lookup_eq_some_iff.mp h
  simp

def Setting.ofNode? (s : Setting) (node : Node) : Option Held := node.scalar?.bind s.ofScalar?

/-- A field that is read holds a value that fits, and puts it in its place. -/
theorem Setting.read_field {s : Setting} {depth : Nat} {node : Node} {put : Config → Config}
    (h : s.field.read depth node = .ok put) :
    ∃ held, s.ofNode? node = some held ∧ s.Fits held ∧ put = s.put held := by
  obtain ⟨part, name, slot⟩ := s
  cases slot with
  | text get change =>
    cases hread : Shape.text depth node with
    | error failure => simp [field, Shape.Field.withDefault, hread, Except.map] at h
    | ok text =>
      obtain rfl : change text = put := by
        simpa [field, Shape.Field.withDefault, hread, Except.map] using h
      rw [Shape.text_eq_ok_iff] at hread
      exact ⟨.text text, by rw [ofNode?, hread]; rfl, trivial, rfl⟩
  | number width get change =>
    cases hread : Shape.natural width.limit width.typeName depth node with
    | error failure => simp [field, Shape.Field.withDefault, hread, Except.map] at h
    | ok n =>
      obtain rfl : change n = put := by
        simpa [field, Shape.Field.withDefault, hread, Except.map] using h
      obtain ⟨i, hscalar, hrange, rfl⟩ := Shape.natural_eq_ok_iff.mp hread
      refine ⟨.number i.toNat, ?_, trivial, rfl⟩
      rw [ofNode?, hscalar]
      exact if_pos hrange

theorem Setting.field_reads {s : Setting} {node : Node} {held : Held} (depth : Nat)
    (h : s.ofNode? node = some held) : ∃ put, s.field.read depth node = .ok put := by
  obtain ⟨value, hscalar, hvalue⟩ := Option.bind_eq_some_iff.mp h
  obtain ⟨part, name, slot⟩ := s
  cases slot with
  | text get change =>
    cases value with
    | string text =>
      have hread : Shape.text depth node = .ok text := Shape.text_eq_ok_iff.mpr hscalar
      exact ⟨change text, by rw [field]; simp only [Shape.Field.withDefault, hread, Except.map]⟩
    | _ => simp [ofScalar?] at hvalue
  | number width get change =>
    cases value with
    | integer i =>
      by_cases hrange : 0 ≤ i ∧ i ≤ width.limit
      · have hread : Shape.natural width.limit width.typeName depth node = .ok i.toNat :=
          Shape.natural_eq_ok_iff.mpr ⟨i, hscalar, hrange, rfl⟩
        refine ⟨change i.toNat, ?_⟩
        rw [field]
        simp only [Shape.Field.withDefault, hread, Except.map]
      · simp [ofScalar?, hrange] at hvalue
    | _ => simp [ofScalar?] at hvalue

@[simp] theorem Setting.field_name (s : Setting) : s.field.name = s.name := by
  obtain ⟨part, name, slot⟩ := s
  cases slot <;> rfl

theorem Part.record_names (part : Part) : part.record.names = settingNames part.name := by
  cases part <;> rfl

theorem Part.record_names_nodup (part : Part) : part.record.names.Nodup := by
  cases part <;> decide

theorem Part.record_lenient (part : Part) : part.record.IsLenient := by
  intro field hfield
  obtain ⟨s, -, rfl⟩ := List.mem_map.mp hfield
  obtain ⟨part', name, slot⟩ := s
  cases slot <;> exact ⟨rfl, rfl⟩

theorem Part.record_field? {part : Part} {s : Setting} (h : s ∈ part.settings) :
    part.record.field? s.name = some s.field := by
  have hmem : s.field ∈ part.record.fields := List.mem_map_of_mem h
  simpa using Shape.Record.field?_of_mem part.record_names_nodup hmem

/-- The entries of a section fit if each is for a setting of its own, and means something for it. -/
structure Part.EntriesFit (part : Part) (entries : List (String × Option Scalar)) : Prop where
  once : (entries.map Prod.fst).Nodup
  means : ∀ entry ∈ entries, ∃ s ∈ part.settings, s.name = entry.1 ∧
    ∃ value held, entry.2 = some value ∧ s.ofScalar? value = some held

/-- Which entries of a section can be read shows in their values without parts. -/
theorem Part.accepts_iff {part : Part} {depth : Nat} {entries : List (String × Node)} :
    part.record.Accepts depth entries ↔
      part.EntriesFit (entries.map fun entry => (entry.1, entry.2.scalar?)) := by
  have hnames : (entries.map fun entry => (entry.1, entry.2.scalar?)).map Prod.fst =
      entries.map Prod.fst := by
    rw [List.map_map]
    rfl
  constructor
  · rintro ⟨honce, hreads⟩
    refine ⟨by rwa [hnames], ?_⟩
    intro given hgiven
    obtain ⟨entry, hentry, rfl⟩ := List.mem_map.mp hgiven
    obtain ⟨field, hfield, put, hread⟩ := hreads entry hentry
    obtain ⟨hmem, hname⟩ := Shape.Record.field?_name hfield
    obtain ⟨s, hs, rfl⟩ := List.mem_map.mp hmem
    obtain ⟨held, hnode, -, -⟩ := Setting.read_field hread
    obtain ⟨value, hscalar, hvalue⟩ := Option.bind_eq_some_iff.mp hnode
    exact ⟨s, hs, by simpa using hname, value, held, hscalar, hvalue⟩
  · rintro ⟨honce, hmeans⟩
    refine ⟨by rwa [hnames] at honce, ?_⟩
    intro entry hentry
    obtain ⟨s, hs, hname, value, held, hscalar, hvalue⟩ :=
      hmeans (entry.1, entry.2.scalar?) (List.mem_map_of_mem hentry)
    dsimp only at hname hscalar
    have hnode : s.ofNode? entry.2 = some held := by
      rw [Setting.ofNode?, hscalar]
      exact hvalue
    refine ⟨s.field, ?_, Setting.field_reads depth hnode⟩
    rw [← hname]
    exact Part.record_field? hs

def Part.setting? (part : Part) (name : String) : Option Setting :=
  part.settings.find? fun s => s.name == name

theorem Part.setting?_of_mem {part : Part} {s : Setting} (h : s ∈ part.settings) :
    part.setting? s.name = some s := by
  have hnodup : (part.settings.map Setting.name).Nodup := by cases part <;> decide
  cases hfound : part.setting? s.name with
  | none =>
    have hall := List.find?_eq_none.mp hfound s h
    simp at hall
  | some t =>
    have hname : t.name = s.name := by simpa using List.find?_some hfound
    have ht : t ∈ part.settings := List.mem_of_find?_eq_some hfound
    exact congrArg some (List.inj_on_of_nodup_map hnodup ht h hname)

def Part.heldAt (part : Part) (name : String) (c : Config) : Held :=
  ((part.setting? name).map fun s => s.held c).getD (.number 0)

def Part.meaningAt (part : Part) (name : String) (node : Node) : Option Held :=
  (part.setting? name).bind fun s => s.ofNode? node

theorem Part.heldAt_of_mem {part : Part} {s : Setting} (h : s ∈ part.settings) (c : Config) :
    part.heldAt s.name c = s.held c := by
  rw [heldAt, setting?_of_mem h]
  rfl

theorem Part.meaningAt_of_mem {part : Part} {s : Setting} (h : s ∈ part.settings) (node : Node) :
    part.meaningAt s.name node = s.ofNode? node := by
  rw [meaningAt, setting?_of_mem h]
  rfl

/-- A section is seen through what its settings hold. -/
theorem Part.record_sees (part : Part) (depth : Nat) :
    part.record.Sees depth part.heldAt part.meaningAt where
  own := by
    intro field hfield node put hread c
    obtain ⟨s, hs, rfl⟩ := List.mem_map.mp hfield
    obtain ⟨held, hnode, hfits, rfl⟩ := Setting.read_field hread
    rw [Setting.field_name, meaningAt_of_mem hs, heldAt_of_mem hs, hnode,
      held_put (mem_part_settings.mp hs).1 hfits]
  other := by
    intro field hfield node put hread name hname hne c
    obtain ⟨s, hs, rfl⟩ := List.mem_map.mp hfield
    obtain ⟨held, hnode, hfits, rfl⟩ := Setting.read_field hread
    obtain ⟨field', hfield', rfl⟩ := List.mem_map.mp hname
    obtain ⟨t, ht, rfl⟩ := List.mem_map.mp hfield'
    rw [Setting.field_name] at hne ⊢
    rw [heldAt_of_mem ht, heldAt_of_mem ht]
    have hst : t ≠ s := by
      rintro rfl
      exact hne (Setting.field_name t).symm
    exact (independent_of_ne (mem_part_settings.mp ht).1 (mem_part_settings.mp hs).1 hst).1 held c

/-- A section that is read gives entries that fit, and each setting holds what it is given. -/
theorem Part.section_read {part : Part} {depth : Nat} {node : Node} {c : Config}
    (h : part.record.shape (depth + 1) node = .ok c) :
    ∃ entries, sectionGiven part.name node = some entries ∧ part.EntriesFit entries ∧
      ∀ s ∈ part.settings,
        s.held c = ((entries.lookup s.name).join.bind s.ofScalar?).getD (s.held default) := by
  obtain ⟨entries, hgiven, haccepts, hvalue⟩ :=
    Shape.Record.accepts_of_shape part.record_names_nodup h
  refine ⟨entries.map fun entry => (entry.1, entry.2.scalar?), ?_, Part.accepts_iff.mp haccepts, ?_⟩
  · rw [sectionGiven, ← Part.record_names, hgiven]
    rfl
  · intro s hs
    have hname : s.name ∈ part.record.names := by
      rw [← Setting.field_name]
      exact List.mem_map_of_mem (List.mem_map_of_mem hs)
    have hheld := hvalue (part.record_sees depth) s.name hname
    rw [Part.heldAt_of_mem hs, Part.heldAt_of_mem hs, Shape.Record.valueIn] at hheld
    rw [hheld, lookup_map (fun _ (node : Node) => node.scalar?)]
    cases entries.lookup s.name with
    | none => rfl
    | some node =>
      rw [Option.bind_some, Part.meaningAt_of_mem hs]
      rfl

/-- Entries that fit are read. -/
theorem Part.section_of_fit {part : Part} {depth : Nat} {node : Node}
    {entries : List (String × Option Scalar)} (hdepth : 0 < depth) (hwhole : node.IsWhole)
    (hskip : node.skip = none) (hgiven : sectionGiven part.name node = some entries)
    (hfit : part.EntriesFit entries) : ∃ c, part.record.shape (depth + 1) node = .ok c := by
  obtain ⟨nodes, hnodes, rfl⟩ := Option.map_eq_some_iff.mp hgiven
  rw [← Part.record_names] at hnodes
  exact Shape.Record.shape_of_accepts part.record_names_nodup part.record_lenient hdepth hwhole
    hskip hnodes (Part.accepts_iff.mpr hfit)

/-- What a document gives fits if it gives each section once, as a table or a list, and the entries
of the section fit. -/
structure Given.Fits (given : Given) : Prop where
  once : (given.map Prod.fst).Nodup
  sections : ∀ entry ∈ given, ∃ part : Part, part.name = entry.1 ∧
    ∃ entries, entry.2 = some entries ∧ part.EntriesFit entries

def Part.named? (name : String) : Option Part := all.find? fun part => part.name == name

theorem Part.named?_name (part : Part) : named? part.name = some part := by
  cases part <;> rfl

theorem Part.eq_of_name {part part' : Part} (h : part.name = part'.name) : part = part' := by
  have hsame := Part.named?_name part
  rw [h, Part.named?_name] at hsame
  exact (Option.some.inj hsame).symm

theorem Part.name_of_named? {name : String} {part : Part} (h : named? name = some part) :
    part.name = name := by
  simpa using List.find?_some h

/-- What all settings of a section hold. -/
def Part.allHeld (part : Part) (c : Config) : List Held := part.settings.map fun s => s.held c

theorem record_names : record.names = partNames := rfl

theorem record_names_nodup : record.names.Nodup := by decide

theorem record_lenient : record.IsLenient := by
  intro field hfield
  obtain ⟨part, -, rfl⟩ := List.mem_map.mp hfield
  exact ⟨rfl, rfl⟩

theorem record_field? (part : Part) :
    record.field? part.name = some (.withDefault part.name part.record.shape part.copy) := by
  cases part <;> rfl

/-- Reading a section into a document. -/
theorem record_reads {part : Part} {depth : Nat} {node : Node} {change : Config → Config}
    (h : (Shape.Field.withDefault part.name part.record.shape part.copy).read depth node =
      .ok change) :
    ∃ other, part.record.shape depth node = .ok other ∧ change = part.copy other := by
  dsimp only [Shape.Field.withDefault] at h
  cases hread : part.record.shape depth node with
  | error failure => simp [hread, Except.map] at h
  | ok other =>
    rw [hread] at h
    exact ⟨other, rfl, (Except.ok.inj h).symm⟩

/-- A document is seen through what the settings of its sections hold. -/
theorem record_sees (depth : Nat) :
    record.Sees depth
      (fun name c => ((Part.named? name).map fun part => part.allHeld c).getD [])
      (fun name node => (Part.named? name).bind fun part =>
        (part.record.shape depth node).toOption.map part.allHeld) where
  own := by
    intro field hfield node change hread c
    obtain ⟨part, -, rfl⟩ := List.mem_map.mp hfield
    obtain ⟨other, hother, rfl⟩ := record_reads hread
    have hname : (Shape.Field.withDefault part.name part.record.shape part.copy).name =
      part.name := rfl
    have hheld : part.allHeld (part.copy other c) = part.allHeld other :=
      List.map_congr_left fun s hs => held_copy hs other c
    simp only [hname, Part.named?_name, Option.bind_some, Option.map_some, Option.getD_some, hother,
      Except.toOption, hheld]
  other := by
    intro field hfield node change hread name hname hne c
    obtain ⟨part, -, rfl⟩ := List.mem_map.mp hfield
    obtain ⟨other, hother, rfl⟩ := record_reads hread
    cases hpart : Part.named? name with
    | none => rfl
    | some part' =>
      have hdiffer : part' ≠ part := by
        rintro rfl
        exact hne (Part.name_of_named? hpart).symm
      have hheld : part'.allHeld (part.copy other c) = part'.allHeld c := by
        refine List.map_congr_left fun s hs => ?_
        obtain ⟨hmem, rfl⟩ := mem_part_settings.mp hs
        exact held_copy_other hmem hdiffer other c
      simp only [Option.map_some, Option.getD_some, hheld]

/-- A document that is read gives what fits, and each setting holds what the document says about
it, or else its default. -/
theorem document_read {depth : Nat} {file : Node} {c : Config}
    (h : record.shape (depth + 2) file = .ok c) :
    (givenBy file).Fits ∧
      ∀ s ∈ settings, s.held c = (s.fromFile? (givenBy file)).getD (s.held default) := by
  obtain ⟨entries, hgiven, haccepts, hvalue⟩ :=
    Shape.Record.accepts_of_shape record_names_nodup h
  rw [record_names] at hgiven
  have hgivenBy : givenBy file =
      entries.map fun entry => (entry.1, sectionGiven entry.1 entry.2) := by
    rw [givenBy, hgiven]
    rfl
  have hsection : ∀ entry ∈ entries, ∃ (part : Part) (other : Config), part.name = entry.1 ∧
      part.record.shape (depth + 1) entry.2 = .ok other := by
    intro entry hentry
    obtain ⟨field, hfield, change, hread⟩ := haccepts.reads entry hentry
    obtain ⟨hmem, hname⟩ := Shape.Record.field?_name hfield
    obtain ⟨part, -, rfl⟩ := List.mem_map.mp hmem
    obtain ⟨other, hother, -⟩ := record_reads hread
    exact ⟨part, other, hname, hother⟩
  refine ⟨⟨?_, ?_⟩, ?_⟩
  · rw [hgivenBy, List.map_map]
    exact haccepts.once
  · intro given hmem
    rw [hgivenBy] at hmem
    obtain ⟨entry, hentry, rfl⟩ := List.mem_map.mp hmem
    obtain ⟨part, other, hname, hread⟩ := hsection entry hentry
    obtain ⟨found, hfound, hfit, -⟩ := Part.section_read hread
    exact ⟨part, hname, found, hname ▸ hfound, hfit⟩
  · intro s hs
    have hpart : s ∈ s.part.settings := mem_part_settings.mpr ⟨hs, rfl⟩
    have hnames : s.part.name ∈ record.names := by
      cases s.part <;> decide
    have hall := hvalue (record_sees (depth + 1)) s.part.name hnames
    simp only [Part.named?_name, Option.map_some, Option.getD_some, Shape.Record.valueIn,
      Option.bind_some] at hall
    rw [Setting.fromFile?, Given.value?, Given.listed?, hgivenBy, lookup_map sectionGiven]
    cases hlookup : entries.lookup s.part.name with
    -- a section that the file leaves out is that of the defaults
    | none =>
      rw [hlookup] at hall
      exact List.map_inj_left.mp hall s hpart
    | some node =>
      obtain ⟨part, other, hname, hread⟩ := hsection (s.part.name, node) (mem_of_lookup hlookup)
      obtain rfl : part = s.part := Part.eq_of_name hname
      rw [hlookup] at hall
      simp only [Option.bind_some, hread, Except.toOption, Option.map_some, Option.getD_some]
        at hall
      obtain ⟨found, hfound, -, hother⟩ := Part.section_read hread
      rw [List.map_inj_left.mp hall s hpart, hother s hpart, Option.map_some, hfound]
      rfl

/-- What is given for a setting in a document that fits means something for the setting. -/
theorem Given.Fits.entry {given : Given} (hfits : given.Fits) {s : Setting} (hs : s ∈ settings)
    {entry : Option Scalar} (h : given.listed? s.part.name s.name = some entry) :
    ∃ value held, entry = some value ∧ s.ofScalar? value = some held := by
  obtain ⟨entries, hsection, hentry⟩ := Option.bind_eq_some_iff.mp h
  have hmem : (s.part.name, some entries) ∈ given :=
    mem_of_lookup (Option.join_eq_some_iff.mp hsection)
  obtain ⟨part, hpart, found, hfound, hfit⟩ := hfits.sections _ hmem
  obtain rfl : entries = found := Option.some.inj hfound
  obtain rfl : part = s.part := Part.eq_of_name hpart
  obtain ⟨t, ht, hname, hmeans⟩ := hfit.means _ (mem_of_lookup hentry)
  obtain rfl : t = s := by
    have hsame := Part.setting?_of_mem ht
    rw [hname, Part.setting?_of_mem (mem_part_settings.mpr ⟨hs, rfl⟩)] at hsame
    exact (Option.some.inj hsame).symm
  exact hmeans

end Config

namespace Toml

/-- A member among the nodes of a table is an entry of the table, and nothing is wrong around it. -/
theorem mem_entryNodes {size : Nat} {entries : List (String × Item)}
    {member : Key × Node × Closing} (h : member ∈ entryNodes size entries) :
    ∃ name item, member = (⟨.ok name, .smooth⟩, Item.toNode size item, .smooth) := by
  induction entries with
  | nil => simp [entryNodes] at h
  | cons entry rest ih =>
    rw [entryNodes] at h
    rcases List.mem_cons.mp h with rfl | hrest
    · exact ⟨entry.1, entry.2, rfl⟩
    · exact ih hrest

theorem mem_itemNodes {size : Nat} {items : List Item} {item : Node × Closing}
    (h : item ∈ itemNodes size items) : item.2 = .smooth := by
  induction items with
  | nil => simp [itemNodes] at h
  | cons head rest ih =>
    rw [itemNodes] at h
    rcases List.mem_cons.mp h with rfl | hrest
    · rfl
    · exact ih hrest

/-- In a text that was understood at all, every part is whole. -/
theorem toNode_isWhole (size : Nat) (item : Item) : (item.toNode size).IsWhole := by
  have hlist : ∀ (mark : Nat) (items : List Item),
      (Node.list mark .smooth (itemNodes size items) none).IsWhole := by
    intro mark items
    refine ⟨rfl, rfl, fun item hitem => ?_⟩
    rw [mem_itemNodes hitem]
    rfl
  have htable : ∀ (mark : Nat) (entries : List (String × Item)),
      (Node.table mark .smooth (entryNodes size entries) none).IsWhole := by
    intro mark entries
    refine ⟨rfl, fun member hmember => ?_⟩
    obtain ⟨name, item, rfl⟩ := mem_entryNodes hmember
    exact ⟨name, rfl⟩
  cases item with
  | scalar mark value => simp [Item.toNode, Node.IsWhole]
  | beyond mark => simp [Item.toNode, Node.IsWhole]
  | moment mark text => simp [Item.toNode, Node.IsWhole]
  | array mark items =>
    rw [Item.toNode]
    exact hlist _ items
  | tables mark items =>
    rw [Item.toNode]
    exact hlist _ items
  | table mark origin entries =>
    rw [Item.toNode]
    exact htable _ entries

theorem parse?_eq_some {text : String} {file : Node} (h : parse? text = some file) :
    ∃ entries, file = (Item.table text.length .header entries).toNode text.length := by
  simp only [parse?, Option.bind_eq_bind, Option.bind_eq_some_iff, Option.pure_def,
    Option.some.injEq] at h
  obtain ⟨draft, -, entries, -, rfl⟩ := h
  exact ⟨entries, by rw [Item.toNode, Nat.sub_self]⟩

end Toml

namespace Config

theorem parse_eq_ok_iff {text : String} {c : Config} :
    parse text = .ok c ↔
      ∃ file, Toml.parse? text = some file ∧ record.shape depthLimit file = .ok c := by
  rw [parse, Toml.read]
  cases Toml.parse? text with
  | none => simp [Except.mapError]
  | some file => cases hread : record.shape depthLimit file <;> simp [Except.mapError, hread]

/-- A document whose sections and entries fit is read, whatever else there is in it. Only a number
beyond every type cannot even be passed over. -/
theorem parse_of_fit {text : String} {file : Node} (htext : Toml.parse? text = some file)
    (hskip : file.skip = none) (hfit : (givenBy file).Fits) : ∃ c, parse text = .ok c := by
  obtain ⟨entries, rfl⟩ := Toml.parse?_eq_some htext
  have hwhole := Toml.toNode_isWhole text.length (.table text.length .header entries)
  rw [Toml.Item.toNode] at htext hskip hfit hwhole
  let nodes := (Toml.entryNodes text.length entries).filterMap (namedNode? partNames)
  have hgivenBy : givenBy (.table (text.length - text.length) .smooth
      (Toml.entryNodes text.length entries) none) =
        nodes.map fun entry => (entry.1, sectionGiven entry.1 entry.2) := rfl
  have hskips : ∀ member ∈ Toml.entryNodes text.length entries, member.2.1.skip = none := by
    rw [← skipMembers_eq_none_iff]
    simpa [Node.skip] using hskip
  have hparts : ∀ entry ∈ nodes, entry.2.IsWhole ∧ entry.2.skip = none := by
    intro entry hentry
    obtain ⟨member, hmember, hnamed⟩ := List.mem_filterMap.mp hentry
    obtain ⟨name, -, rfl⟩ := Option.map_eq_some_iff.mp hnamed
    refine ⟨?_, hskips member hmember⟩
    obtain ⟨key, item, rfl⟩ := Toml.mem_entryNodes hmember
    exact Toml.toNode_isWhole text.length item
  have haccepts : record.Accepts (depthLimit - 1) nodes := by
    refine ⟨?_, ?_⟩
    · have honce := hfit.once
      rw [hgivenBy, List.map_map] at honce
      exact honce
    · intro entry hentry
      obtain ⟨hentryWhole, hentrySkip⟩ := hparts entry hentry
      obtain ⟨part, hname, found, hfound, hentries⟩ := hfit.sections
        (entry.1, sectionGiven entry.1 entry.2) (by rw [hgivenBy]; exact List.mem_map_of_mem hentry)
      dsimp only at hname hfound
      rw [← hname] at hfound
      obtain ⟨other, hread⟩ := Part.section_of_fit (by decide : 0 < depthLimit - 2) hentryWhole
        hentrySkip hfound hentries
      refine ⟨_, hname ▸ record_field? part, part.copy other, ?_⟩
      have hdepth : depthLimit - 1 = depthLimit - 2 + 1 := rfl
      simp only [Shape.Field.withDefault, hdepth, hread, Except.map]
  obtain ⟨c, hread⟩ := Shape.Record.shape_of_accepts record_names_nodup record_lenient
    (by decide : 0 < depthLimit - 1) hwhole hskip rfl haccepts
  exact ⟨c, parse_eq_ok_iff.mpr ⟨_, htext, hread⟩⟩

end Config

end DashboardCheck
