import DashboardCheck.Config.Writing
import DashboardCheck.Proofs.Config.Loaded
import DashboardCheck.Proofs.Toml.Lines

/-!
# A written configuration is read back

A configuration is written line by line, and read line by line. Between the two stands what the
lines build: a table for each section, which holds the value of each of its settings and nothing
else. Only the widths of numbers matter for this: any text can be written, and any number that fits
its setting.
-/
namespace DashboardCheck

namespace Toml

open Document

variable {dict : Dict Item} {size mark : Nat}

/-- What a document gives of a table, if it knows all its names. -/
theorem given?_entryNodes {names : List String} (h : ∀ other ∈ dict.names, other ∈ names) :
    (Node.table mark .smooth (entryNodes size dict) none).given? names =
      some (dict.map fun entry => (entry.1, entry.2.toNode size)) := by
  rw [Node.given?, Option.some.injEq]
  induction dict with
  | nil => rfl
  | cons entry rest ih =>
    have hentry : entry.1 ∈ names := h entry.1 (by simp [Dict.names])
    have hrest := ih fun other hother => h other (List.mem_cons_of_mem entry.1 hother)
    have hnamed : namedNode? names (⟨.ok entry.1, .smooth⟩, entry.2.toNode size, .smooth) =
        some (entry.1, entry.2.toNode size) := by
      simp [namedNode?, Except.toOption, Option.filter, hentry]
    rw [entryNodes, List.filterMap_cons, hnamed, List.map_cons, hrest]

/-- A table can be passed over if its items can. -/
theorem skip_entryNodes (h : ∀ entry ∈ dict, (entry.2.toNode size).skip = none) :
    (Node.table mark .smooth (entryNodes size dict) none).skip = none := by
  have hmembers : skipMembers (entryNodes size dict) = none := by
    induction dict with
    | nil => rfl
    | cons entry rest ih =>
      have hrest := ih fun other hother => h other (List.mem_cons_of_mem entry hother)
      rw [entryNodes, skipMembers, h entry List.mem_cons_self, hrest]
      rfl
  rw [Node.skip, hmembers]
  rfl

end Toml

namespace Config

open Document Toml

/-- The value that a setting is written as. -/
def Held.scalar : Held → Scalar
  | .text s => .string s
  | .number n => .integer n

def Setting.valueText (s : Setting) (c : Config) : List Char :=
  match s.slot with
  | .text get _ => writeString (get c)
  | .number _ get _ => Number.digitsOf (get c)

theorem Width.limit_le (width : Width) : width.limit ≤ Number.max64 := by
  cases width <;> decide

theorem Setting.writes {s : Setting} {c : Config} (h : s.InWidth (s.held c)) :
    Writes (s.valueText c) (s.held c).scalar := by
  obtain ⟨part, name, slot⟩ := s
  cases slot with
  | text get put => exact writes_string (get c)
  | number width get put =>
    have hbound : get c ≤ width.limit := h
    exact writes_integer (hbound.trans width.limit_le)

theorem Setting.ofScalar?_scalar {s : Setting} {c : Config} (h : s.InWidth (s.held c)) :
    s.ofScalar? (s.held c).scalar = some (s.held c) := by
  obtain ⟨part, name, slot⟩ := s
  cases slot with
  | text get put => rfl
  | number width get put =>
    have hbound : get c ≤ width.limit := h
    have hrange : (0 : Int) ≤ get c ∧ (get c : Int) ≤ width.limit := by omega
    simp [held, Held.scalar, ofScalar?, hrange]

theorem settings_bare : ∀ s ∈ settings, IsBareName s.name := by
  simp only [settings, List.forall_mem_cons, List.not_mem_nil, false_implies, implies_true,
    and_true]
  decide

theorem Part.bare (part : Part) : IsBareName part.name := by
  cases part <;> decide

theorem Part.settings_once (part : Part) : (part.settings.map Setting.name).Nodup := by
  cases part <;> decide

/-- A table holds what the settings of a section are written as. -/
abbrev Part.IsHeld (part : Part) (c : Config) (current : Dict Item) : Prop :=
  HoldsRow Setting.name (fun s item => item.IsValue (s.held c).scalar) part.settings current

def Part.IsTable (part : Part) (c : Config) (item : Item) : Prop :=
  ∃ mark current, item = .table mark .header current ∧ part.IsHeld c current

abbrev HoldsParts (c : Config) (row : List Part) (root : Dict Item) : Prop :=
  HoldsRow Part.name (fun part item => part.IsTable c item) row root

variable {c : Config}

/-- The lines of a section add its table. -/
theorem reads_part (hwidths : c.InWidths) (part : Part) {draft : Draft} {root : Dict Item}
    (hfinish : draft.finish = some root) (hnew : root.holds part.name = false)
    (rest : List Char) :
    ∃ draft' item, part.IsTable c item ∧
      draft'.finish = some (root.insert part.name item) ∧
      Reads draft (writeHeader part.name ++ part.lines c ++ rest) draft' rest := by
  obtain ⟨mark, hheader⟩ := reads_header part.bare hfinish hnew (part.lines c ++ rest)
  have hsettings : ∀ s ∈ part.settings, s ∈ settings := fun s hs => (mem_part_settings.mp hs).1
  obtain ⟨current, hheld, hentries⟩ := reads_entries part.settings
    (fun s hs => settings_bare s (hsettings s hs))
    (fun s hs => s.writes (hwidths s (hsettings s hs))) part.settings_once
    ⟨root, some ([], part.name, false, mark), []⟩ .nil rest
  refine ⟨⟨root, some ([], part.name, false, mark), current⟩, .table mark .header current,
    ⟨mark, current, rfl, hheld⟩, rfl, ?_⟩
  rw [List.append_assoc]
  exact hheader.trans hentries

theorem sectionLines_cons (c : Config) (part : Part) (more : List Part) :
    ∃ behind, sectionLines c (part :: more) = writeHeader part.name ++ behind := by
  cases more with
  | nil => exact ⟨_, rfl⟩
  | cons next more => exact ⟨_, List.append_assoc ..⟩

/-- The lines of a row of sections add their tables. -/
theorem reads_parts (hwidths : c.InWidths) (later : List Part) {earlier : List Part}
    (honce : ((earlier ++ later).map Part.name).Nodup) {draft : Draft} {root : Dict Item}
    (hfinish : draft.finish = some root) (hroot : HoldsParts c earlier root) :
    ∃ draft' root', draft'.finish = some root' ∧ HoldsParts c (earlier ++ later) root' ∧
      Reads draft (sectionLines c later) draft' [] := by
  -- The last section ends the text; behind any other there is an empty line and a header.
  induction later generalizing earlier draft root with
  | nil => exact ⟨draft, root, hfinish, by simpa using hroot, .refl draft []⟩
  | cons part later ih =>
    obtain ⟨hnew, honce'⟩ := next_of_once honce
    cases later with
    | nil =>
      obtain ⟨draft', item, hitem, hfinish', hpart⟩ := reads_part hwidths part hfinish
        (hroot.not_holds hnew) []
      rw [List.append_nil] at hpart
      exact ⟨draft', _, hfinish', hroot.insert hnew hitem, hpart⟩
    | cons next more =>
      obtain ⟨draft', item, hitem, hfinish', hpart⟩ := reads_part hwidths part hfinish
        (hroot.not_holds hnew) ('\n' :: sectionLines c (next :: more))
      obtain ⟨draft'', root', hfinish'', hroot', hparts⟩ := ih honce' hfinish'
        (hroot.insert hnew hitem)
      obtain ⟨behind, hbehind⟩ := sectionLines_cons c next more
      have hempty : Reads draft' ('\n' :: sectionLines c (next :: more)) draft'
          (sectionLines c (next :: more)) := by
        rw [hbehind]
        exact reads_empty draft' next.name behind
      refine ⟨draft'', root', hfinish'', by simpa using hroot', ?_⟩
      exact hpart.trans (hempty.trans hparts)

/-- A written configuration begins with the header of its first section. -/
theorem toList_toToml (c : Config) :
    ∃ behind, c.toToml.toList = '[' :: behind ∧ '[' :: behind = sectionLines c Part.all := by
  obtain ⟨behind, hbehind⟩ := sectionLines_cons c .general [.model, .dashboard, .retry, .saml]
  rw [writeHeader_append] at hbehind
  refine ⟨_, ?_, hbehind.symm⟩
  rw [toToml, String.toList_ofList]
  exact hbehind

/-- A written configuration is a table of the tables of its sections. -/
theorem parse?_toToml (hwidths : c.InWidths) :
    ∃ root, Toml.parse? c.toToml =
        some (.table 0 .smooth (entryNodes c.toToml.length root) none) ∧
      HoldsParts c Part.all root := by
  obtain ⟨draft, root, hfinish, hroot, hreads⟩ := reads_parts hwidths Part.all
    (by decide) (rfl : Draft.finish ⟨[], none, []⟩ = some []) .nil
  obtain ⟨behind, htext, hlines⟩ := toList_toToml c
  rw [← hlines] at hreads
  exact ⟨root, parse?_of_reads htext (by decide) hreads hfinish, hroot⟩

section Given

variable {mark : Nat}

/-- A section gives what fits, and for each setting what it holds. -/
theorem Part.IsTable.given (hwidths : c.InWidths) {part : Part} {item : Item}
    (h : part.IsTable c item) (size : Nat) :
    ∃ entries, sectionGiven part.name (item.toNode size) = some entries ∧
      part.EntriesFit entries ∧
      ∀ s ∈ part.settings, entries.lookup s.name = some (some (s.held c).scalar) := by
  obtain ⟨mark, current, rfl, hheld⟩ := h
  refine ⟨current.map fun entry => (entry.1, (entry.2.toNode size).scalar?), ?_, ⟨?_, ?_⟩, ?_⟩
  · have hnames : ∀ other ∈ Dict.names current, other ∈ settingNames part.name := by
      intro other hother
      obtain ⟨s, hs, rfl⟩ := List.mem_map.mp ((hheld.names other).mp hother)
      rw [← Part.record_names, ← Setting.field_name]
      exact List.mem_map_of_mem (List.mem_map_of_mem hs)
    rw [Item.toNode, sectionGiven, given?_entryNodes hnames, Option.map_some, List.map_map]
    rfl
  · rw [List.map_map]
    exact hheld.ascending.nodup
  · intro given hgiven
    obtain ⟨⟨other, item⟩, hentry, rfl⟩ := List.mem_map.mp hgiven
    obtain ⟨s, hs, hname, valueMark, rfl⟩ := hheld.of_mem hentry
    have hmeans := s.ofScalar?_scalar (hwidths s (mem_part_settings.mp hs).1)
    exact ⟨s, hs, hname, (s.held c).scalar, s.held c, by rw [Item.toNode]; rfl, hmeans⟩
  · intro s hs
    obtain ⟨item, hvalue, valueMark, rfl⟩ := hheld.items s hs
    rw [lookup_map fun _ (item : Item) => (item.toNode size).scalar?, Dict.lookup_eq_get?, hvalue,
      Option.map_some, Item.toNode]
    rfl

variable {root : Dict Item} (h : HoldsParts c Part.all root) (size : Nat)

include h

theorem HoldsParts.given :
    givenBy (.table mark .smooth (entryNodes size root) none) =
      root.map fun entry => (entry.1, sectionGiven entry.1 (entry.2.toNode size)) := by
  have hnames : ∀ other ∈ root.names, other ∈ partNames :=
    fun other hother => (h.names other).mp hother
  rw [givenBy, given?_entryNodes hnames, Option.getD_some, List.map_map]
  rfl

theorem HoldsParts.fits (hwidths : c.InWidths) :
    (givenBy (.table mark .smooth (entryNodes size root) none)).Fits where
  once := by
    rw [h.given, List.map_map]
    exact h.ascending.nodup
  sections := by
    intro given hgiven
    rw [h.given] at hgiven
    obtain ⟨⟨other, item⟩, hentry, rfl⟩ := List.mem_map.mp hgiven
    obtain ⟨part, -, rfl, htable⟩ := h.of_mem hentry
    obtain ⟨entries, hsection, hfit, -⟩ := htable.given hwidths size
    exact ⟨part, rfl, entries, hsection, hfit⟩

/-- A document says about each setting what it holds. -/
theorem HoldsParts.fromFile? (hwidths : c.InWidths) {s : Setting} (hs : s ∈ settings) :
    s.fromFile? (givenBy (.table mark .smooth (entryNodes size root) none)) =
      some (s.held c) := by
  obtain ⟨item, hitem, htable⟩ := h.items s.part (by cases s.part <;> decide)
  obtain ⟨entries, hsection, -, hvalues⟩ := htable.given hwidths size
  have hlisted : Given.listed? (givenBy (.table mark .smooth (entryNodes size root) none))
      s.part.name s.name = some (some (s.held c).scalar) := by
    rw [Given.listed?, h.given, lookup_map fun name (item : Item) =>
      sectionGiven name (item.toNode size), Dict.lookup_eq_get?, hitem, Option.map_some, hsection]
    exact hvalues s (mem_part_settings.mpr ⟨hs, rfl⟩)
  rw [Setting.fromFile?, Given.value?, hlisted]
  exact s.ofScalar?_scalar (hwidths s hs)

/-- Nothing in a document is beyond what can be passed over. -/
theorem HoldsParts.skip :
    (Node.table mark .smooth (entryNodes size root) none).skip = none := by
  refine skip_entryNodes fun entry hentry => ?_
  obtain ⟨part, -, -, itemMark, current, hitem, hheld⟩ := h.of_mem hentry
  rw [hitem, Item.toNode]
  refine skip_entryNodes fun value hvalue => ?_
  obtain ⟨s, -, -, valueMark, hscalar⟩ := hheld.of_mem hvalue
  rw [hscalar, Item.toNode, Node.skip]

end Given

/-- What is written is read back, in every setting. -/
theorem parse_toToml (hwidths : c.InWidths) : parse c.toToml = .ok c := by
  obtain ⟨root, htext, hroot⟩ := parse?_toToml hwidths
  obtain ⟨c', hparse⟩ := parse_of_fit htext (hroot.skip _) (hroot.fits _ hwidths)
  obtain ⟨file, hfile, hread⟩ := parse_eq_ok_iff.mp hparse
  obtain rfl : _ = file := Option.some.inj (htext.symm.trans hfile)
  have hsame : c' = c := ext_held fun s hs => by
    rw [(document_read hread).2 s hs, hroot.fromFile? _ hwidths hs]
    rfl
  rw [hparse, hsame]

end Config

end DashboardCheck
