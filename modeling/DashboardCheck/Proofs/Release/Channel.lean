import DashboardCheck.Proofs.Dict
import DashboardCheck.Proofs.Text.Trimmed
import DashboardCheck.Release.Basic

/-!
# Channels and series

A channel names a series by what stands before its first slash: the version number of the series, or
the series itself. The three tables of releases agree in this: each version number leads to a series
that a codename is shipped with, and that pair is a release. So a series that a channel names can be
used wherever a series is asked for.
-/
namespace DashboardCheck

namespace Release

open Text

/-- What may follow a name: nothing, or a slash and any text. -/
def IsTail (cs : List Char) : Prop := cs = [] ∨ ∃ rest, cs = '/' :: rest

theorem IsTail.before_eq_nil {cs : List Char} (h : IsTail cs) : before '/' cs = [] := by
  rcases h with rfl | ⟨rest, rfl⟩
  · rfl
  · simp [before]

def versionOf (channel : String) : String := String.ofList (before '/' (trim channel).toList)

/-- What can be told from whatever follows it: a text that is neither empty nor has a blank or a
slash in it. -/
def IsName (cs : List Char) : Prop := cs ≠ [] ∧ ∀ c ∈ cs, isBlank c = false ∧ c ≠ '/'

instance (cs : List Char) : Decidable (IsName cs) :=
  decidable_of_iff (cs ≠ [] ∧ cs.all (fun c => !isBlank c && c != '/') = true) (by simp [IsName])

/-- Only what follows a name can be changed by trimming. -/
theorem IsName.trimChars_append {name tail : List Char} (h : IsName name) (htail : IsTail tail) :
    ∃ tail', IsTail tail' ∧ trimChars (name ++ tail) = name ++ tail' := by
  obtain ⟨hne, hchars⟩ := h
  have hstart : ∀ c, (name ++ tail).head? = some c → isBlank c = false := by
    intro c hc
    rw [List.head?_append_of_ne_nil _ hne] at hc
    exact (hchars c (List.mem_of_head? hc)).1
  rcases htail with rfl | ⟨rest, rfl⟩
  · refine ⟨[], .inl rfl, trimChars_of_ends hstart ?_⟩
    intro c hc
    rw [List.append_nil] at hc
    exact (hchars c (List.mem_of_getLast? hc)).1
  · refine ⟨'/' :: dropBlankEnd rest, .inr ⟨_, rfl⟩, ?_⟩
    rw [trimChars, dropWhile_of_head hstart, dropBlankEnd_append_cons (by decide)]

/-- A name is what is looked up, whatever follows it. -/
theorem versionOf_append {name tail : List Char} (hname : IsName name) (htail : IsTail tail) :
    versionOf (String.ofList (name ++ tail)) = String.ofList name := by
  obtain ⟨tail', htail', htrim⟩ := hname.trimChars_append htail
  have hslash : '/' ∉ name := fun hmem => (hname.2 '/' hmem).2 rfl
  rw [versionOf, trim, String.toList_ofList, String.toList_ofList, htrim, before_append hslash,
    htail'.before_eq_nil, List.append_nil]

/-- What is looked up stands before a tail. -/
theorem versionOf_of_trim {channel : String} {version tail : List Char}
    (htrim : (trim channel).toList = version ++ tail) (hslash : '/' ∉ version)
    (htail : IsTail tail) : versionOf channel = String.ofList version := by
  rw [versionOf, htrim, before_append hslash, htail.before_eq_nil, List.append_nil]

theorem versions_ascending : Dict.Ascending versions := by
  unfold Dict.Ascending
  decide

/-- Every version number is that of a series with a codename. -/
theorem versions_known : ∀ entry ∈ versions, entry.2 ∈ Dict.names defaults := by decide

theorem defaults_not_versions : ∀ series ∈ Dict.names defaults, series ∉ Dict.names versions := by
  decide

theorem isName_defaults : ∀ series ∈ Dict.names defaults, IsName series.toList := by
  decide

theorem isName_versions : ∀ version ∈ Dict.names versions, IsName version.toList := by
  decide

/-- The codename that a series ships makes a release with it. -/
theorem ofSeries_defaults : ∀ name ∈ Dict.names defaults,
    (ofSeries name).toOption.map series = some name := by
  decide

variable {channel series version : String}

def Names (version series : String) : Prop :=
  (version, series) ∈ versions ∨ version = series ∧ series ∈ Dict.names defaults

theorem Names.known (h : Names version series) : series ∈ Dict.names defaults := by
  rcases h with hversion | ⟨-, hknown⟩
  · exact versions_known _ hversion
  · exact hknown

theorem Names.isName (h : Names version series) : IsName version.toList := by
  rcases h with hversion | ⟨rfl, hknown⟩
  · exact isName_versions version (List.mem_map_of_mem hversion)
  · exact isName_defaults version hknown

/-- The series of a channel, by version number or by name. -/
theorem seriesOfChannel_eq (channel : String) :
    seriesOfChannel channel =
      match Dict.get? versions (versionOf channel) with
      | some series => .ok series
      | none => if Dict.holds defaults (versionOf channel) then .ok (versionOf channel)
        else .error (.unknownSeries (trim channel)) := by
  rw [seriesOfChannel, Dict.get?, ← versionOf]
  cases versions.find? fun entry => entry.1 == versionOf channel with
  | none => rfl
  | some entry => rfl

theorem seriesOfChannel_eq_ok_iff :
    seriesOfChannel channel = .ok series ↔ Names (versionOf channel) series := by
  rw [seriesOfChannel_eq]
  cases hget : Dict.get? versions (versionOf channel) with
  | some found =>
    have hmem := Dict.mem_of_get? hget
    rw [Except.ok.injEq]
    constructor
    · rintro rfl
      exact .inl hmem
    · rintro (hversion | ⟨heq, hknown⟩)
      · rw [versions_ascending.get?_of_mem hversion] at hget
        exact (Option.some.inj hget).symm
      · exact absurd (List.mem_map_of_mem hmem) (defaults_not_versions _ (heq ▸ hknown))
  | none =>
    rw [Dict.get?_eq_none_iff] at hget
    have hnot : (versionOf channel, series) ∉ versions :=
      fun hversion => hget (List.mem_map.mpr ⟨_, hversion, rfl⟩)
    by_cases hknown : versionOf channel ∈ Dict.names defaults
    · rw [if_pos (Dict.holds_iff.mpr hknown), Except.ok.injEq]
      constructor
      · rintro rfl
        exact .inr ⟨rfl, hknown⟩
      · intro hnames
        exact (hnames.resolve_left hnot).1
    · rw [if_neg (mt Dict.holds_iff.mp hknown)]
      constructor
      · intro herror
        cases herror
      · intro hnames
        obtain ⟨heq, hmem⟩ := hnames.resolve_left hnot
        exact absurd (heq ▸ hmem) hknown

/-- A series that a channel names names itself. -/
theorem seriesOfChannel_self (h : seriesOfChannel channel = .ok series) :
    seriesOfChannel series = .ok series := by
  have hknown := (seriesOfChannel_eq_ok_iff.mp h).known
  have hself := versionOf_append (isName_defaults series hknown) (.inl rfl)
  rw [List.append_nil, String.ofList_toList] at hself
  rw [seriesOfChannel_eq_ok_iff, hself]
  exact .inr ⟨rfl, hknown⟩

/-- It makes no difference what follows the name in a channel. -/
theorem seriesOfChannel_tail {name tail tail' : List Char}
    (h : seriesOfChannel channel = .ok series) (htrim : (trim channel).toList = name ++ tail)
    (hslash : '/' ∉ name) (htail : IsTail tail) (htail' : IsTail tail') :
    seriesOfChannel (String.ofList (name ++ tail')) = .ok series := by
  rw [seriesOfChannel_eq_ok_iff, versionOf_of_trim htrim hslash htail] at h
  have hname := h.isName
  rw [String.toList_ofList] at hname
  rw [seriesOfChannel_eq_ok_iff, versionOf_append hname htail']
  exact h

/-- A package source that means the packages of the distribution. -/
def IsDistribution (source : String) : Prop :=
  trim source = "" ∨ trim source = "distro" ∨ "distro-".toList <+: (trim source).toList

theorem isDistribution_iff {source : String} :
    isDistribution (trim source) = true ↔ IsDistribution source := by
  simp [isDistribution, IsDistribution, or_assoc]

theorem ofSource_distribution {source : String} (h : IsDistribution source) (name : String) :
    ofSource source name = ofSeries name := by
  rw [ofSource]
  exact if_pos (isDistribution_iff.mpr h)

/-- The packages of the distribution have a release for every series that a channel names. -/
theorem ofSource_of_seriesOfChannel {source : String} (h : seriesOfChannel channel = .ok series)
    (hsource : IsDistribution source) :
    ∃ release, ofSource source series = .ok release ∧ release.series = series := by
  have hshipped := ofSeries_defaults series (seriesOfChannel_eq_ok_iff.mp h).known
  rw [ofSource_distribution hsource]
  cases hrelease : ofSeries series with
  | error fault => simp [hrelease, Except.toOption] at hshipped
  | ok release => exact ⟨release, rfl, by simpa [hrelease, Except.toOption] using hshipped⟩

end Release

end DashboardCheck
