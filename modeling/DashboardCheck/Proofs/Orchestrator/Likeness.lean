import DashboardCheck.Proofs.Orchestrator.Description
import DashboardCheck.Proofs.Orchestrator.Numbering

/-!
# An orchestrator in memory and a status that tells of it

An orchestrator in memory is given applications, units with their addresses, and series, in any
order and any number of times. A status that tells of just these applications answers as it does:
with the same names, units, addresses and series, and otherwise with a failure of the same kind.
-/
namespace DashboardCheck

namespace Mock

/-- One thing that an orchestrator is given. -/
inductive Part where
  | units (application : String) (addresses : List String)
  | applications (names : List String)
  | series (application series : String)

/-- The orchestrator with one thing more. -/
def Part.addTo (m : Mock) : Part → Mock
  | .units application addresses => m.withUnits application addresses
  | .applications names => m.withApplications names
  | .series application name => m.withSeries application name

/-- Addresses and series are not empty, and the numbers of units are numbers of 64 bits. -/
def Part.IsSound : Part → Prop
  | .units _ addresses =>
    (∀ address ∈ addresses, address ≠ "") ∧ addresses.length ≤ Number.max64 + 1
  | .applications _ => True
  | .series _ name => name ≠ ""

/-- An orchestrator that was given these things, one after the other. -/
def ofParts (parts : List Part) : Mock := parts.foldl Part.addTo empty

def numbered (app : String) (addresses : List String) : List (String × String) :=
  addresses.zipIdx.map fun (address, n) => (unitName app n, address)

variable {m : Mock} {app unit address : String}

theorem withUnits_eq (addresses : List String) :
    m.withUnits app addresses =
      { m with units := Dict.insert app (numbered app addresses) m.units } := rfl

theorem mem_numbered {addresses : List String} :
    (unit, address) ∈ numbered app addresses ↔
      ∃ n, addresses[n]? = some address ∧ unit = unitName app n := by
  simp only [numbered, List.mem_map, Prod.exists, List.mem_zipIdx_iff_getElem?, Prod.mk.injEq]
  constructor
  · rintro ⟨address, n, hn, rfl, rfl⟩
    exact ⟨n, hn, rfl⟩
  · rintro ⟨n, hn, rfl⟩
    exact ⟨address, n, hn, rfl, rfl⟩

theorem map_fst_numbered (addresses : List String) :
    (numbered app addresses).map Prod.fst = ModelStatus.unitNames app addresses.length := by
  have hnumbers : addresses.zipIdx.map Prod.snd = List.range addresses.length := by
    simp [List.range_eq_range']
  rw [numbered, List.map_map, ModelStatus.unitNames, ← hnumbers, List.map_map]
  rfl

theorem knows_iff : m.knows app = true ↔ app ∈ Dict.names m.units ∨ app ∈ m.applications := by
  rw [knows, Bool.or_eq_true, Dict.holds_iff, List.contains_iff_mem]

theorem mem_names_iff : app ∈ m.names ↔ m.knows app = true := by
  rw [names, Dict.mem_names_ofList, knows_iff]
  simp

def unitsOf (m : Mock) (app : String) : List (String × String) := (m.units.get? app).getD []

theorem knows_of_unit (h : (unit, address) ∈ m.unitsOf app) : m.knows app = true := by
  rw [unitsOf] at h
  cases hget : m.units.get? app with
  | none => simp [hget] at h
  | some units => exact knows_iff.mpr (.inl (List.mem_map.mpr ⟨_, Dict.mem_of_get? hget, rfl⟩))

/-- Each application has its units numbered, and what has a series is known. -/
structure IsBuilt (m : Mock) : Prop where
  ascending : Dict.Ascending m.units
  units : ∀ entry ∈ m.units, ∃ addresses,
    (Part.units entry.1 addresses).IsSound ∧ entry.2 = numbered entry.1 addresses
  series : ∀ app series, m.series.get? app = some series → series ≠ "" ∧ m.knows app = true

theorem isBuilt_empty : empty.IsBuilt :=
  ⟨List.Pairwise.nil, by simp [empty], by simp [empty]⟩

/-- A recorder with more in it knows no fewer applications. -/
theorem knows_mono {m' : Mock} (h : m.knows app = true)
    (hunits : ∀ name ∈ Dict.names m.units, name ∈ Dict.names m'.units)
    (happlications : ∀ name ∈ m.applications, name ∈ m'.applications) : m'.knows app = true :=
  knows_iff.mpr ((knows_iff.mp h).imp (hunits app) (happlications app))

/-- One thing more. -/
theorem IsBuilt.addTo {part : Part} (h : m.IsBuilt) (hpart : part.IsSound) :
    (part.addTo m).IsBuilt := by
  cases part with
  | units app addresses =>
    rw [Part.addTo, withUnits_eq]
    have hold : ∀ name ∈ Dict.names m.units,
        name ∈ Dict.names (Dict.insert app (numbered app addresses) m.units) :=
      fun name hname => (Dict.mem_names_insert _ _).mpr (.inr hname)
    refine ⟨Dict.ascending_insert app _ h.ascending, ?_, ?_⟩
    · intro entry hentry
      rcases Dict.mem_of_mem_insert hentry with rfl | hentry
      · exact ⟨addresses, hpart, rfl⟩
      · exact h.units entry hentry
    · intro other series hseries
      obtain ⟨hne, hknown⟩ := h.series other series hseries
      exact ⟨hne, knows_mono hknown hold fun _ => id⟩
  | applications names =>
    rw [Part.addTo, withApplications]
    refine ⟨h.ascending, h.units, fun other series hseries => ?_⟩
    obtain ⟨hne, hknown⟩ := h.series other series hseries
    exact ⟨hne, knows_mono hknown (fun _ => id) fun _ => List.mem_append_left names⟩
  | series app name =>
    rw [Part.addTo, withSeries]
    refine ⟨h.ascending, h.units, fun other series hseries => ?_⟩
    dsimp only at hseries
    by_cases hother : other = app
    · subst hother
      rw [Dict.get?_insert_self] at hseries
      cases hseries
      exact ⟨hpart, knows_iff.mpr (.inr (by simp))⟩
    · rw [Dict.get?_insert_other _ _ hother] at hseries
      obtain ⟨hne, hknown⟩ := h.series other series hseries
      exact ⟨hne, knows_mono hknown (fun _ => id) fun _ => List.mem_append_left [app]⟩

/-- Whatever an orchestrator is given. -/
theorem isBuilt_ofParts {parts : List Part} (h : ∀ part ∈ parts, part.IsSound) :
    (ofParts parts).IsBuilt := by
  have hfold : ∀ m : Mock, m.IsBuilt → (parts.foldl Part.addTo m).IsBuilt := by
    induction parts with
    | nil => exact fun _ hm => hm
    | cons part rest ih =>
      obtain ⟨hpart, hrest⟩ := List.forall_mem_cons.mp h
      exact fun m hm => ih hrest _ (hm.addTo hpart)
  exact hfold empty isBuilt_empty

namespace IsBuilt

/-- The units of an application, known or not. -/
theorem unitsOf_eq (h : m.IsBuilt) (app : String) : ∃ addresses,
    (Part.units app addresses).IsSound ∧ m.unitsOf app = numbered app addresses := by
  cases hget : m.units.get? app with
  | none => exact ⟨[], ⟨by simp, by simp⟩, by rw [unitsOf, hget]; rfl⟩
  | some units =>
    obtain ⟨addresses, hsound, hunits⟩ := h.units (app, units) (Dict.mem_of_get? hget)
    exact ⟨addresses, hsound, by rw [unitsOf, hget]; exact hunits⟩

theorem partOf_unit (h : m.IsBuilt) (hunit : (unit, address) ∈ m.unitsOf app) :
    ModelStatus.partOf unit = app := by
  obtain ⟨addresses, -, haddresses⟩ := h.unitsOf_eq app
  rw [haddresses, mem_numbered] at hunit
  obtain ⟨n, -, rfl⟩ := hunit
  exact ModelStatus.partOf_unitName app n

/-- A unit belongs to one application, and has one address, which is not empty. -/
theorem address_unique (h : m.IsBuilt) {app' address' : String}
    (hunit : (unit, address) ∈ m.unitsOf app) (hunit' : (unit, address') ∈ m.unitsOf app') :
    address = address' ∧ address ≠ "" := by
  obtain rfl : app = app' := (h.partOf_unit hunit).symm.trans (h.partOf_unit hunit')
  obtain ⟨addresses, hsound, haddresses⟩ := h.unitsOf_eq app
  rw [haddresses, mem_numbered] at hunit hunit'
  obtain ⟨n, hn, rfl⟩ := hunit
  obtain ⟨n', hn', hname⟩ := hunit'
  obtain ⟨-, rfl⟩ := ModelStatus.unitName_inj.mp hname
  exact ⟨Option.some.inj (hn.symm.trans hn'), hsound.1 address (List.mem_of_getElem? hn)⟩

theorem mem_units_iff (h : m.IsBuilt) :
    (unit, address) ∈ m.units.flatMap Prod.snd ↔ ∃ app, (unit, address) ∈ m.unitsOf app := by
  rw [List.mem_flatMap]
  constructor
  · rintro ⟨⟨app, units⟩, hentry, hunit⟩
    refine ⟨app, ?_⟩
    rw [unitsOf, h.ascending.get?_of_mem hentry]
    exact hunit
  · rintro ⟨app, hunit⟩
    rw [unitsOf] at hunit
    cases hget : m.units.get? app with
    | none => simp [hget] at hunit
    | some units =>
      rw [hget] at hunit
      exact ⟨(app, units), Dict.mem_of_get? hget, hunit⟩

/-- The address of a unit is the one that it was given. -/
theorem address?_eq_some_iff (h : m.IsBuilt) :
    m.address? unit = some address ↔ ∃ app, (unit, address) ∈ m.unitsOf app := by
  rw [address?, ← h.mem_units_iff]
  constructor
  · intro hfound
    obtain ⟨entry, hentry, rfl⟩ := Option.map_eq_some_iff.mp hfound
    have hname : entry.1 = unit := by simpa using List.find?_some hentry
    rw [← hname]
    exact List.mem_of_find?_eq_some hentry
  · intro hmem
    cases hfound : (m.units.flatMap Prod.snd).find? fun entry => entry.1 == unit with
    | none => simpa using List.find?_eq_none.mp hfound _ hmem
    | some entry =>
      obtain ⟨name, found⟩ := entry
      obtain rfl : name = unit := by simpa using List.find?_some hfound
      obtain ⟨app, hunit⟩ := h.mem_units_iff.mp hmem
      obtain ⟨app', hunit'⟩ := h.mem_units_iff.mp (List.mem_of_find?_eq_some hfound)
      rw [Option.map_some, (h.address_unique hunit hunit').1]

end IsBuilt

/-- What there is to tell of an orchestrator: its applications, each with its series, if that is
set, and with its units and their addresses. -/
def described (m : Mock) : List (String × Option String × List (String × String)) :=
  m.names.map fun app => (app, m.series.get? app, m.unitsOf app)

end Mock

/-- Two answers are the same, or both tell of output that cannot be used. -/
inductive SameAnswer {α : Type} :
    Except OrchestratorError α → Except OrchestratorError α → Prop
  | refl (answer : Except OrchestratorError α) : SameAnswer answer answer
  | output (command reason command' reason' : String) :
    SameAnswer (.error (.output command reason)) (.error (.output command' reason'))

namespace ModelStatus

variable {s : ModelStatus} {m : Mock} {app unit address : String}

theorem Reports.mem_names_iff (h : s.Reports m.described) :
    app ∈ s.applicationNames ↔ m.knows app = true := by
  rw [← Mock.mem_names_iff, applicationNames, h.names app, Mock.described, List.map_map]
  have hself : (Prod.fst ∘ fun app => (app, m.series.get? app, m.unitsOf app)) = id := rfl
  rw [hself, List.map_id]

/-- Each application that is known is there as it is known. -/
theorem Reports.known_application (h : s.Reports m.described) (hknown : m.knows app = true) :
    ∃ found, s.applications.get? app = some found ∧
      found.Reports (m.series.get? app) (m.unitsOf app) :=
  h.values (app, m.series.get? app, m.unitsOf app)
    (List.mem_map.mpr ⟨app, Mock.mem_names_iff.mpr hknown, rfl⟩)

theorem Reports.answer_names (h : s.Reports m.described) (hs : s.Ordered) :
    m.answer .names = .ok s.applicationNames := by
  have hnames : m.names = s.applicationNames := by
    refine List.Pairwise.eq_of_mem_iff (Dict.ascending_ofList _) hs.applications ?_
    intro name
    exact Mock.mem_names_iff.trans h.mem_names_iff.symm
  exact congrArg Except.ok hnames

/-- Every unit that a status lists is one that is known, with its address. -/
theorem Reports.known_unit (h : s.Reports m.described) (hs : s.Ordered)
    {entry : String × ApplicationStatus} (hentry : entry ∈ s.applications)
    {listed : String × UnitStatus} (hlisted : listed ∈ entry.2.units) :
    ∃ address, (listed.1, address) ∈ m.unitsOf entry.1 ∧ listed.2.IsAt address := by
  have hknown : m.knows entry.1 = true :=
    h.mem_names_iff.mp (List.mem_map.mpr ⟨entry, hentry, rfl⟩)
  obtain ⟨found, hfound, hreports⟩ := h.known_application hknown
  obtain rfl : entry.2 = found :=
    Option.some.inj ((hs.applications.get?_of_mem hentry).symm.trans hfound)
  obtain ⟨known, hmem, hname⟩ := List.mem_map.mp
    ((hreports.units.names listed.1).mp (List.mem_map.mpr ⟨listed, hlisted, rfl⟩))
  obtain ⟨status, hget, hat⟩ := hreports.units.values known hmem
  rw [hname] at hget
  obtain rfl : listed.2 = status :=
    Option.some.inj (((hs.each entry hentry).units.get?_of_mem hlisted).symm.trans hget)
  refine ⟨known.2, ?_, hat⟩
  rw [← hname]
  exact hmem

/-- No unit accompanies another. -/
theorem Reports.companions_eq_nil (h : s.Reports m.described) (hs : s.Ordered) (app : String) :
    s.companions app = [] := by
  rw [List.eq_nil_iff_forall_not_mem]
  intro unit hunit
  obtain ⟨-, entry, hentry, principal, hprincipal, hsub⟩ := mem_companions.mp hunit
  obtain ⟨address, -, -, hnone⟩ := h.known_unit hs hentry hprincipal
  rw [hnone] at hsub
  exact absurd hsub List.not_mem_nil

theorem Reports.answer_units (h : s.Reports m.described) (hs : s.Ordered) (hm : m.IsBuilt)
    (app : String) : m.answer (.units app) = s.units app := by
  by_cases hknown : m.knows app = true
  · obtain ⟨found, hfound, hreports⟩ := h.known_application hknown
    obtain ⟨addresses, hsound, hunits⟩ := hm.unitsOf_eq app
    have hanswer : m.answer (.units app) = .ok (unitNames app addresses.length) := by
      rw [Mock.answer, Mock.require, if_pos hknown, ← Mock.unitsOf, hunits, Mock.map_fst_numbered]
    have hnames : ∀ unit,
        unit ∈ Dict.names found.units ↔ unit ∈ unitNames app addresses.length := by
      intro unit
      rw [hreports.units.names, hunits, Mock.map_fst_numbered]
    rw [hanswer]
    by_cases hown : found.units = []
    · have hnone : unitNames app addresses.length = [] := by
        rw [List.eq_nil_iff_forall_not_mem]
        intro unit hunit
        rw [← hnames, hown] at hunit
        exact absurd hunit List.not_mem_nil
      rw [units_companions hfound hown, h.companions_eq_nil hs, hnone, List.mergeSort_nil,
        dropRepeats]
    · have hnodup := (hs.each (app, found) (Dict.mem_of_get? hfound)).units.nodup
      rw [units_own hfound hown, sorted_unitNames hsound.2 hnodup hnames]
  · rw [Mock.answer, Mock.require, if_neg hknown, units_unknown (mt h.mem_names_iff.mp hknown)]

/-- What is found of a unit is what is known of it, and otherwise nothing is known. -/
theorem Reports.findUnit (h : s.Reports m.described) (hs : s.Ordered) (unit : String) :
    match s.findUnit? unit with
    | some status => ∃ app address, (unit, address) ∈ m.unitsOf app ∧
        status.address = some address
    | none => ∀ app address, (unit, address) ∉ m.unitsOf app := by
  have heach : ∀ listed ∈ s.applications.flatMap fun entry => entry.2.units,
      ∃ app address, (listed.1, address) ∈ m.unitsOf app ∧ listed.2.IsAt address := by
    intro listed hlisted
    obtain ⟨entry, hentry, hmem⟩ := List.mem_flatMap.mp hlisted
    exact ⟨entry.1, h.known_unit hs hentry hmem⟩
  cases hfind : s.findUnit? unit with
  | some status =>
    rw [findUnit?] at hfind
    obtain ⟨⟨name, found⟩, hlisted, hstatus⟩ := List.exists_of_findSome?_eq_some hfind
    obtain ⟨app, address, hunit, haddress, hsubs⟩ := heach _ hlisted
    dsimp only at hstatus hunit haddress hsubs
    rw [hsubs] at hstatus
    split_ifs at hstatus with hname
    · cases hstatus
      exact ⟨app, address, hname ▸ hunit, haddress⟩
    · cases hstatus
  | none =>
    intro app address hunit
    obtain ⟨found, hfound, hreports⟩ := h.known_application (Mock.knows_of_unit hunit)
    obtain ⟨status, hget, -⟩ := hreports.units.values (unit, address) hunit
    have hlisted : (unit, status) ∈ s.applications.flatMap fun entry => entry.2.units :=
      List.mem_flatMap.mpr ⟨_, Dict.mem_of_get? hfound, Dict.mem_of_get? hget⟩
    simpa using List.findSome?_eq_none_iff.mp hfind _ hlisted

theorem Reports.answer_address (h : s.Reports m.described) (hs : s.Ordered) (hm : m.IsBuilt)
    (unit : String) : m.answer (.address unit) = s.publicAddress unit := by
  have hfound := h.findUnit hs unit
  rw [Mock.answer, publicAddress]
  cases hfind : s.findUnit? unit with
  | none =>
    rw [hfind] at hfound
    have hnone : m.address? unit = none := by
      rw [Option.eq_none_iff_forall_ne_some]
      intro address haddress
      obtain ⟨app, hunit⟩ := hm.address?_eq_some_iff.mp haddress
      exact hfound app address hunit
    rw [hnone]
    rfl
  | some status =>
    rw [hfind] at hfound
    obtain ⟨app, address, hunit, haddress⟩ := hfound
    have hne : address.isEmpty = false := by
      simpa using (hm.address_unique hunit hunit).2
    rw [hm.address?_eq_some_iff.mpr ⟨app, hunit⟩, Option.bind_some, haddress]
    simp [Option.filter, hne]

theorem Reports.answer_series (h : s.Reports m.described) (hm : m.IsBuilt) (app : String) :
    SameAnswer (m.answer (.series app)) (s.series app) := by
  rw [Mock.answer, Mock.require]
  by_cases hknown : m.knows app = true
  · obtain ⟨found, hfound, hreports⟩ := h.known_application hknown
    rw [if_pos hknown, series, application, hfound]
    simp only [bind, Except.bind]
    rw [hreports.series, hreports.base]
    cases hseries : m.series.get? app with
    | none => exact .output _ _ _ _
    | some name =>
      have hne : name.isEmpty = false := by simpa using (hm.series app name hseries).1
      simp only [Option.filter, hne]
      exact .refl _
  · rw [if_neg hknown, series, application,
      Dict.get?_eq_none_iff.mpr (mt h.mem_names_iff.mp hknown)]
    exact .refl _

end ModelStatus

namespace Mock

/-- A status that tells of an orchestrator in memory, and of nothing more, answers as it does. -/
theorem ofParts_answers (parts : List Part) (hparts : ∀ part ∈ parts, part.IsSound) (text : String)
    (value : Json.Value) (htext : Json.TextWrites text value)
    (hvalue : value.IsStatus (ofParts parts).described) :
    ∃ s, ModelStatus.parse text = .ok s ∧
      (ofParts parts).answer .names = .ok s.applicationNames ∧
      (∀ app, (ofParts parts).answer (.units app) = s.units app) ∧
      (∀ unit, (ofParts parts).answer (.address unit) = s.publicAddress unit) ∧
      (∀ app, SameAnswer ((ofParts parts).answer (.series app)) (s.series app)) ∧
      ∀ app, app ∉ s.applicationNames →
        s.units app = .error (.applicationNotFound app) ∧
        s.series app = .error (.applicationNotFound app) ∧
        (ofParts parts).answer (.series app) = .error (.applicationNotFound app) := by
  have hm := isBuilt_ofParts hparts
  obtain ⟨s, hparse, hs, h⟩ := ModelStatus.parse_of_isStatus htext hvalue
  refine ⟨s, hparse, h.answer_names hs, h.answer_units hs hm, h.answer_address hs hm,
    h.answer_series hm, fun app happ => ⟨ModelStatus.units_unknown happ, ?_, ?_⟩⟩
  · rw [ModelStatus.series, ModelStatus.application, Dict.get?_eq_none_iff.mpr happ]
    rfl
  · rw [answer, require, if_neg (mt h.mem_names_iff.mpr happ)]

/-- An application with two units and a series, and one without. -/
def twoParts : List Part :=
  [.units "a" ["10.0.0.1", "10.0.0.2"], .applications ["b"], .series "a" "jammy"]

def twoStatus : String :=
  "\x7b\"applications\": \x7b\"b\": \x7b\x7d, \"a\": \x7b\"series\": \"jammy\", \"units\": \x7b" ++
    "\"a/1\": \x7b\"public-address\": \"10.0.0.2\"\x7d, " ++
    "\"a/0\": \x7b\"public-address\": \"10.0.0.1\"\x7d\x7d\x7d\x7d\x7d"

def unitValue (address : String) : Json.Value := .object [("public-address", .string address)]

def unitValues : Dict Json.Value :=
  [("a/0", unitValue "10.0.0.1"), ("a/1", unitValue "10.0.0.2")]

def applicationValues : Dict Json.Value :=
  [("a", .object [("series", .string "jammy"), ("units", .object unitValues)]), ("b", .object [])]

def readTwo? (text : String) : Option (List String) :=
  match Json.parse text with
  | .ok (.object [(applications, .object [
      (a, .object [(series, .string name), (units, .object [
        (unit, .object [(tag, .string address)]),
        (unit', .object [(tag', .string address')])])]),
      (b, .object [])])]) =>
    some [applications, a, series, name, units, unit, tag, address, unit', tag', address', b]
  | _ => none

theorem parse_twoStatus :
    Json.parse twoStatus = .ok (.object [("applications", .object applicationValues)]) := by
  have h : readTwo? twoStatus = some ["applications", "a", "series", "jammy", "units", "a/0",
      "public-address", "10.0.0.1", "a/1", "public-address", "10.0.0.2", "b"] := by
    decide +kernel
  rw [readTwo?] at h
  split at h
  · next hparse =>
    cases h
    exact hparse
  · cases h

theorem isUnitAt_unitValue (address : String) : (unitValue address).IsUnitAt address := by
  refine ⟨rfl, fun leader hleader => ?_, rfl⟩
  cases hleader

theorem isStatus_two :
    (Json.Value.object [("applications", .object applicationValues)]).IsStatus
      (ofParts twoParts).described := by
  have hdescribed : (ofParts twoParts).described =
      [("a", some "jammy", [("a/0", "10.0.0.1"), ("a/1", "10.0.0.2")]), ("b", none, [])] := by
    decide +kernel
  have hunits : Dict.Lists Json.Value.IsUnitAt unitValues
      [("a/0", "10.0.0.1"), ("a/1", "10.0.0.2")] := by
    refine ⟨fun _ => Iff.rfl, ?_⟩
    simp only [List.forall_mem_cons, List.not_mem_nil, false_implies, implies_true, and_true]
    exact ⟨⟨_, rfl, isUnitAt_unitValue _⟩, ⟨_, rfl, isUnitAt_unitValue _⟩⟩
  have hnone : Dict.Lists Json.Value.IsUnitAt [] ([] : List (String × String)) :=
    ⟨fun _ => Iff.rfl, by simp⟩
  rw [hdescribed]
  refine ⟨applicationValues, ⟨_, rfl, .inl rfl⟩, fun _ => Iff.rfl, ?_⟩
  simp only [List.forall_mem_cons, List.not_mem_nil, false_implies, implies_true, and_true]
  refine ⟨⟨_, rfl, rfl, rfl, unitValues, ⟨_, rfl, .inl rfl⟩, hunits⟩,
    ⟨_, rfl, rfl, rfl, [], ⟨_, rfl, .inr ⟨rfl, rfl⟩⟩, hnone⟩⟩

theorem ofParts_answers_two :
    ∃ s, ModelStatus.parse twoStatus = .ok s ∧ s.units "a" = .ok ["a/0", "a/1"] ∧
      s.publicAddress "a/1" = .ok "10.0.0.2" := by
  have hparts : ∀ part ∈ twoParts, part.IsSound := by
    simp [twoParts, Part.IsSound, Number.max64]
  have htext : Json.TextWrites twoStatus (.object [("applications", .object applicationValues)]) :=
    ⟨parse_twoStatus, by decide +kernel⟩
  obtain ⟨s, hparse, -, hunits, haddress, hseries, -⟩ :=
    ofParts_answers twoParts hparts twoStatus _ htext isStatus_two
  refine ⟨s, hparse, ?_, ?_⟩
  · rw [← hunits]
    decide +kernel
  · rw [← haddress]
    decide +kernel

end Mock

end DashboardCheck
