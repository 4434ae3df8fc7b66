import DashboardCheck.Proofs.Json.Value
import DashboardCheck.Proofs.Orchestrator.Description
import DashboardCheck.Proofs.Release.Channel

/-!
# Bases

An application that reports no series has it from its base, and a status writes a base in three
ways. All of them come to a channel, and nothing but the channel counts: with the same channel the
series is the same, and if there is one at all then it can be used, for itself and for a release.
-/
namespace DashboardCheck

open Document Json

variable {depth : Nat} {node : Node} {channel : String}

/-- A base that comes to this channel: behind the name of an operating system or by itself. -/
inductive Base.IsOn (channel : String) : Base → Prop
  | named {name : String} : '@' ∉ name.toList → IsOn channel (.plain (name ++ "@" ++ channel))
  | plain : '@' ∉ channel.toList → IsOn channel (.plain channel)
  | channel : IsOn channel (.channel channel)

namespace Json.Value

/-- What a status writes for such a base: a text in one of two forms, or a table with the channel,
whatever else is in there. -/
inductive IsBaseOn (channel : String) : Value → Prop
  | named {name : String} : '@' ∉ name.toList → IsBaseOn channel (.string (name ++ "@" ++ channel))
  | plain : '@' ∉ channel.toList → IsBaseOn channel (.string channel)
  | table {members : Dict Value} : Dict.get? members "channel" = some (.string channel) →
      IsBaseOn channel (.object members)

/-- What a status says about an application that has its series from a base on this channel. -/
structure IsOnChannel (value : Value) (channel : String) : Prop where
  series : value.get? "series" = none ∨ value.get? "series" = some .null ∨
    value.get? "series" = some (.string "")
  base : ∃ base, value.get? "base" = some base ∧ base.IsBaseOn channel

/-- The status says this about an application. -/
def HasApplication (value : Value) (app : String) (entry : Value) : Prop :=
  ∃ applications, value.get? "applications" = some applications ∧
    applications.get? app = some entry

end Json.Value

namespace Base

/-- A base is on the channel that it comes to, and on no other. -/
theorem isOn_iff {base : Base} : base.IsOn channel ↔ ModelStatus.channelOf base = channel := by
  constructor
  · intro h
    cases h with
    | @named name hname =>
      have hcut := Text.cutFirst_append channel.toList hname
      simp only [ModelStatus.channelOf, String.toList_append, String.reduceToList,
        List.append_assoc, List.singleton_append, hcut, String.ofList_toList]
    | plain hplain => simp only [ModelStatus.channelOf, Text.cutFirst_eq_none.mpr hplain]
    | channel => rfl
  · rintro rfl
    cases base with
    | channel name => exact .channel
    | plain text =>
      rw [ModelStatus.channelOf]
      cases hcut : Text.cutFirst '@' text.toList with
      | none => exact .plain (Text.cutFirst_eq_none.mp hcut)
      | some sides =>
        obtain ⟨name, rest⟩ := sides
        obtain ⟨htext, hname⟩ := Text.cutFirst_eq_some hcut
        have hjoin : text = String.ofList name ++ "@" ++ String.ofList rest := by
          apply String.toList_injective
          simp [htext]
        rw [hjoin]
        exact .named (by rwa [String.toList_ofList])

/-- What is written for a base is read as one. -/
theorem read_of_isBaseOn {value : Json.Value} (h : value.IsBaseOn channel)
    (hnode : node.Writes depth value) :
    ∃ base, shape depth node = .ok base ∧ base.IsOn channel := by
  cases h with
  | @named name hname => exact ⟨_, by rw [shape, hnode.read]; rfl, .named hname⟩
  | plain hplain => exact ⟨_, by rw [shape, hnode.read]; rfl, .plain hplain⟩
  | @table dict hchannel =>
    obtain ⟨mark, opened, members, entries, below, rfl, rfl, hentries, hnames, rfl⟩ := hnode.object
    have hentry : ("channel", .string channel) ∈ entries :=
      Dict.mem_of_mem_ofList (Dict.mem_of_get? hchannel)
    obtain ⟨key, child, closing, hsingle, hwrites⟩ := hentries.filter_named hnames hentry
    obtain ⟨place, rfl⟩ := hwrites.string
    refine ⟨.channel channel, ?_, .channel⟩
    rw [shape, hnode.read]
    simp only [bind, Except.bind]
    rw [hsingle]
    rfl

/-- A base that stands there is read, in each of its forms. -/
theorem optional_of_isBaseOn {value : Json.Value} (h : value.IsBaseOn channel)
    (hnode : node.Writes depth value) :
    ∃ base, Shape.optional shape depth node = .ok (some base) ∧ base.IsOn channel := by
  obtain ⟨base, hread, hon⟩ := read_of_isBaseOn h hnode
  have hvalue : value ≠ .null := by
    rintro rfl
    cases h
  refine ⟨base, ?_, hon⟩
  rw [Shape.optional_of_writes hnode hvalue, hread]
  rfl

end Base

namespace ApplicationStatus

/-- The application has its series from a base on this channel. -/
structure IsOnChannel (app : ApplicationStatus) (channel : String) : Prop where
  series : app.series = none ∨ app.series = some ""
  base : ∃ base, app.base = some base ∧ base.IsOn channel

variable {entry : Json.Value} {app : ApplicationStatus}

theorem isOnChannel_of_read (h : entry.IsOnChannel channel) (hnode : node.Writes depth entry)
    (hread : shape depth node = .ok app) : app.IsOnChannel channel := by
  obtain ⟨base, hvalue, hbase⟩ := h.base
  cases entry with
  | object members =>
    have hnames : record.names.Nodup := by
      rw [record_names]
      decide
    have hsees := Shape.Record.sees_of_writes hnames hnode hread record_sees_series
      (by simp [record_names])
    have hsees' := Shape.Record.sees_of_writes hnames hnode hread record_sees_base
      (by simp [record_names])
    obtain ⟨child, hchild, hheld⟩ := hsees'.2 base hvalue
    obtain ⟨found, hfound, hon⟩ := Base.optional_of_isBaseOn hbase hchild
    refine ⟨?_, found, Except.ok.inj (hheld.symm.trans hfound), hon⟩
    rcases h.series with hnone | hnull | hempty
    · exact .inl (hsees.1 hnone)
    · obtain ⟨child, hchild, hheld⟩ := hsees.2 _ hnull
      obtain ⟨mark, rfl⟩ := hchild.null
      exact .inl (Except.ok.inj hheld).symm
    · obtain ⟨child, hchild, hheld⟩ := hsees.2 _ hempty
      obtain ⟨mark, rfl⟩ := hchild.string
      exact .inr (Except.ok.inj hheld).symm
  | _ => cases hvalue

def ReadsUnits (depth : Nat) (entry : Json.Value) : Prop :=
  ∀ units, entry.get? "units" = some units → ∀ child : Node, child.Writes (depth - 1) units →
    ∃ found, Shape.dictOf UnitStatus.shape (depth - 1) child = .ok found

/-- An application on a channel is read if its units can be. -/
theorem read_of_isOnChannel (h : entry.IsOnChannel channel) (hnode : node.Writes depth entry)
    (hunits : ReadsUnits depth entry) :
    ∃ app, shape depth node = .ok app ∧ app.IsOnChannel channel := by
  suffices hread : ∃ app, shape depth node = .ok app by
    obtain ⟨app, happ⟩ := hread
    exact ⟨app, happ, isOnChannel_of_read h hnode happ⟩
  obtain ⟨base, hbase, hon⟩ := h.base
  cases entry with
  | object members =>
    have hreads : Shape.ReadEach record.fields (depth - 1) members := by
      refine .cons ?_ (.cons ?_ (.cons hunits .nil))
      · intro value hvalue child hchild
        rcases h.series with hnone | hnull | hempty
        · cases hnone.symm.trans hvalue
        · obtain rfl : Value.null = value := Option.some.inj (hnull.symm.trans hvalue)
          obtain ⟨mark, rfl⟩ := hchild.null
          exact ⟨_, rfl⟩
        · obtain rfl : Value.string "" = value := Option.some.inj (hempty.symm.trans hvalue)
          obtain ⟨mark, rfl⟩ := hchild.string
          exact ⟨_, rfl⟩
      · intro value hvalue child hchild
        obtain rfl : base = value := Option.some.inj (hbase.symm.trans hvalue)
        obtain ⟨found, hfound, -⟩ := Base.optional_of_isBaseOn hon hchild
        exact ⟨_, hfound⟩
    obtain ⟨app, hread, -⟩ :=
      Shape.Record.shape_of_writes (by rw [record_names]; decide) record_isLenient hnode hreads
    exact ⟨app, hread⟩
  | _ => cases hbase

end ApplicationStatus

namespace ModelStatus

variable {s : ModelStatus} {app text : String} {value entry : Json.Value}

/-- An application that a status tells of is there, read from what it tells. -/
theorem application_of_read (h : value.HasApplication app entry) (hnode : node.Writes depth value)
    (hread : shape depth node = .ok s) :
    ∃ child found, child.Writes (depth - 1 - 1) entry ∧
      ApplicationStatus.shape (depth - 1 - 1) child = .ok found ∧
      s.application app = .ok found := by
  obtain ⟨applications, hvalue, hentry⟩ := h
  cases value with
  | object members =>
    cases applications with
    | object dict =>
      have hsees := Shape.Record.sees_of_writes (by rw [record_names]; decide) hnode hread
        record_sees_applications (by simp [record_names])
      obtain ⟨child, hchild, hheld⟩ := hsees.2 _ hvalue
      obtain ⟨entryChild, found, hwrites, hfound, hget⟩ :=
        Shape.get?_dictOf_of_writes hchild hheld hentry
      exact ⟨entryChild, found, hwrites, hfound, by rw [application, hget]⟩
    | _ => cases hentry
  | _ => cases hvalue

def seriesOn (channel : String) : Except OrchestratorError String :=
  (Release.seriesOfChannel channel).mapError fun e => .output command e.message

theorem seriesOn_eq_ok_iff {series : String} :
    seriesOn channel = .ok series ↔ Release.seriesOfChannel channel = .ok series := by
  rw [seriesOn]
  cases Release.seriesOfChannel channel <;> simp [Except.mapError]

theorem series_of_isOnChannel {found : ApplicationStatus} (happ : s.application app = .ok found)
    (h : found.IsOnChannel channel) : s.series app = seriesOn channel := by
  obtain ⟨base, hbase, hon⟩ := h.base
  have hseries : found.series.filter (fun series => !series.isEmpty) = none := by
    rcases h.series with hnone | hempty
    · rw [hnone]
      rfl
    · rw [hempty]
      rfl
  rw [series, happ]
  simp only [bind, Except.bind]
  rw [hseries, hbase]
  simp only [Base.isOn_iff.mp hon, seriesOn]

/-- The series of an application on a base is that of the channel. -/
theorem series_of_parse (htext : Json.TextWrites text value) (hparse : parse text = .ok s)
    (happ : value.HasApplication app entry) (h : entry.IsOnChannel channel) :
    s.series app = seriesOn channel := by
  obtain ⟨hany, -⟩ := Json.read_eq_ok_iff.mp htext.parse
  obtain ⟨hread, -⟩ := Json.read_eq_ok_iff.mp (parse_eq_ok_iff.mp hparse)
  obtain ⟨child, found, hwrites, hfound, happ⟩ := application_of_read happ ⟨hany, htext.once⟩ hread
  exact series_of_isOnChannel happ (ApplicationStatus.isOnChannel_of_read h hwrites hfound)

/-- Of a base nothing but the channel counts. An application on a channel has the series that the
channel names, whichever way a status writes the base, and no such base keeps an application from
being read. A series that a channel names names itself, is the same whatever follows the first slash
of the channel, and has a release wherever the packages are those of the distribution. -/
theorem series_of_base (channel : String) :
    (∀ (s : ModelStatus) (app : String) (found : ApplicationStatus),
      s.application app = .ok found → found.IsOnChannel channel →
        s.series app = seriesOn channel) ∧
    (∀ (depth : Nat) (node : Node) (entry : Json.Value), node.Writes depth entry →
      entry.IsOnChannel channel → ApplicationStatus.ReadsUnits depth entry →
        ∃ found, ApplicationStatus.shape depth node = .ok found ∧ found.IsOnChannel channel) ∧
    (∀ (text : String) (value : Json.Value) (s : ModelStatus) (app : String) (entry : Json.Value),
      Json.TextWrites text value → parse text = .ok s → value.HasApplication app entry →
        entry.IsOnChannel channel → s.series app = seriesOn channel) ∧
    (∀ series, seriesOn channel = .ok series ↔ Release.seriesOfChannel channel = .ok series) ∧
    ∀ series, Release.seriesOfChannel channel = .ok series →
      Release.seriesOfChannel series = .ok series ∧
      (∀ name tail tail' : List Char, (Text.trim channel).toList = name ++ tail → '/' ∉ name →
        Release.IsTail tail → Release.IsTail tail' →
          Release.seriesOfChannel (String.ofList (name ++ tail')) = .ok series) ∧
      ∀ source, Release.IsDistribution source →
        ∃ release, Release.ofSource source series = .ok release ∧ release.series = series := by
  refine ⟨fun s app found happ h => series_of_isOnChannel happ h, ?_, ?_, ?_, ?_⟩
  · exact fun depth node entry hnode h hunits =>
      ApplicationStatus.read_of_isOnChannel h hnode hunits
  · exact fun text value s app entry htext hparse happ h => series_of_parse htext hparse happ h
  · exact fun series => seriesOn_eq_ok_iff
  · intro series h
    refine ⟨Release.seriesOfChannel_self h, ?_, ?_⟩
    · intro name tail tail' htrim hslash htail htail'
      exact Release.seriesOfChannel_tail h htrim hslash htail htail'
    · exact fun source hsource => Release.ofSource_of_seriesOfChannel h hsource

/-- A status with three applications on one channel, each with its base written another way. -/
def threeBases : String :=
  "\x7b\"applications\": \x7b\"a\": \x7b\"base\": \"ubuntu@22.04\"\x7d, " ++
    "\"b\": \x7b\"series\": null, " ++
    "\"base\": \x7b\"name\": \"ubuntu\", \"channel\": \"22.04\"\x7d\x7d, " ++
    "\"c\": \x7b\"series\": \"\", \"base\": \"22.04\"\x7d\x7d\x7d"

def threeEntries : Dict Json.Value :=
  [("a", .object [("base", .string "ubuntu@22.04")]),
    ("b", .object [("base", .object [("channel", .string "22.04"),
      ("name", .string "ubuntu")]), ("series", .null)]),
    ("c", .object [("base", .string "22.04"), ("series", .string "")])]

/-- Three forms of base and one package source of the distribution, all on one series. -/
theorem series_of_base_three :
    ∃ s, parse threeBases = .ok s ∧ (∀ app ∈ ["a", "b", "c"], s.series app = .ok "jammy") ∧
      Release.seriesOfChannel "22.04/candidate" = .ok "jammy" ∧
      ∃ release, Release.ofSource "distro" "jammy" = .ok release ∧ release.series = "jammy" := by
  have htext : Json.TextWrites threeBases (.object [("applications", .object threeEntries)]) :=
    ⟨Json.parse_of_writes (by decide +kernel), by decide +kernel⟩
  have hsome : (parse threeBases).toOption.isSome = true := by decide +kernel
  obtain ⟨s, hparse⟩ : ∃ s, parse threeBases = .ok s := by
    cases hresult : parse threeBases with
    | error e => simp [hresult, Except.toOption] at hsome
    | ok s => exact ⟨s, rfl⟩
  have hnamed : Release.seriesOfChannel "22.04" = .ok "jammy" := rfl
  obtain ⟨-, -, hread, hok, huse⟩ := series_of_base "22.04"
  obtain ⟨-, htail, hrelease⟩ := huse "jammy" hnamed
  have happ : ∀ app entry, Dict.get? threeEntries app = some entry →
      entry.IsOnChannel "22.04" → s.series app = .ok "jammy" := by
    intro app entry hentry hon
    rw [hread _ _ s app entry htext hparse ⟨_, rfl, hentry⟩ hon]
    exact (hok "jammy").mpr hnamed
  have hfirst : (Value.string "ubuntu@22.04").IsBaseOn "22.04" :=
    .named (by decide : '@' ∉ "ubuntu".toList)
  refine ⟨s, hparse, ?_, ?_, ?_⟩
  · simp only [List.forall_mem_cons, List.not_mem_nil, false_implies, implies_true, and_true]
    refine ⟨happ "a" _ rfl ⟨.inl rfl, _, rfl, hfirst⟩, ?_, ?_⟩
    · exact happ "b" _ rfl ⟨.inr (.inl rfl), _, rfl, .table rfl⟩
    · exact happ "c" _ rfl ⟨.inr (.inr rfl), _, rfl, .plain (by decide)⟩
  · exact htail "22.04".toList [] "/candidate".toList (by decide) (by decide) (.inl rfl)
      (.inr ⟨_, rfl⟩)
  · exact hrelease "distro" (.inr (.inl (by decide)))

end ModelStatus

end DashboardCheck
