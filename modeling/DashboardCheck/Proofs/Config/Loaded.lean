import DashboardCheck.Config.Source
import DashboardCheck.Proofs.Config.Given

/-!
# What loading guarantees

A configuration that was loaded went through the file, the environment and the rules, in this order.
So its numbers have the widths of their settings, the environment has no more to say about it, and
it breaks no rule.
-/
namespace DashboardCheck.Config

open Document

def Setting.InWidth (s : Setting) (held : Held) : Prop :=
  match s.slot, held with
  | .number width .., .number n => n ≤ width.limit
  | _, _ => True

/-- All numbers are within the widths of their settings. -/
def InWidths (c : Config) : Prop := ∀ s ∈ settings, s.InWidth (s.held c)

theorem inWidths_default : InWidths default := by
  simp only [InWidths, settings, List.forall_mem_cons, List.not_mem_nil, false_implies,
    implies_true, and_true, Setting.InWidth, Setting.held]
  decide

theorem Setting.inWidth_of_variable {s : Setting} {env : Environment} {held : Held}
    (h : s.fromEnvironment? env = some held) : s.InWidth held := by
  obtain ⟨value, -, hvalue⟩ := Option.bind_eq_some_iff.mp h
  obtain ⟨part, name, slot⟩ := s
  cases slot with
  | text get put => trivial
  | number width get put =>
    obtain ⟨n, hn, rfl⟩ := Option.map_eq_some_iff.mp hvalue
    have hbound : n ≤ width.limit := by
      simpa using (Option.filter_eq_some_iff.mp hn).2
    exact hbound

theorem Setting.inWidth_of_entry {s : Setting} {given : Given} {held : Held}
    (h : s.fromFile? given = some held) : s.InWidth held := by
  obtain ⟨value, -, hvalue⟩ := Option.bind_eq_some_iff.mp h
  obtain ⟨part, name, slot⟩ := s
  cases slot with
  | text get put => trivial
  | number width get put =>
    cases value with
    | integer n =>
      by_cases hrange : 0 ≤ n ∧ n ≤ width.limit
      · obtain rfl : Held.number n.toNat = held := by simpa [ofScalar?, hrange] using hvalue
        have hbound : n.toNat ≤ width.limit := by omega
        exact hbound
      · simp [ofScalar?, hrange] at hvalue
    | _ => simp [ofScalar?] at hvalue

theorem inWidths_of_parse {text : String} {c : Config} (h : parse text = .ok c) : c.InWidths := by
  obtain ⟨file, -, hread⟩ := parse_eq_ok_iff.mp h
  intro s hs
  rw [(document_read hread).2 s hs]
  cases hfile : s.fromFile? (givenBy file) with
  | none => exact inWidths_default s hs
  | some held => exact s.inWidth_of_entry hfile

theorem InWidths.override {c : Config} (h : c.InWidths) (env : Environment) :
    (c.override env).InWidths := by
  intro s hs
  rw [held_override hs]
  cases henv : s.fromEnvironment? env with
  | none => exact h s hs
  | some held => exact s.inWidth_of_variable henv

/-- What was overridden once is not changed by overriding it again. -/
theorem override_override (env : Environment) (c : Config) :
    (c.override env).override env = c.override env := by
  refine ext_held fun s hs => ?_
  rw [held_override hs, held_override hs]
  cases s.fromEnvironment? env <;> rfl

/-- A rule that names the allowed values finds no fault with one of them, and with nothing else. -/
theorem Rule.oneOf_keeps {field : String} {get : Config → String} {allowed : List String}
    {c : Config} : (Rule.oneOf field get allowed).fault? c = none ↔ get c ∈ allowed := by
  by_cases h : get c ∈ allowed
  · simp [oneOf, h]
  · simp [oneOf, h]

theorem Rule.must_keeps {field reason : String} {ok : Config → Bool} {c : Config} :
    (Rule.must field ok reason).fault? c = none ↔ ok c = true := by
  by_cases h : ok c = true
  · simp [must, h]
  · simp [must, h]

/-- What the rules ask for, of the settings that later steps depend on. -/
structure IsValid (c : Config) : Prop where
  logFormat : c.general.logFormat ∈ logFormats
  scheme : c.dashboard.scheme ∈ schemes
  port : c.dashboard.port ≠ 0
  remote : c.dashboard.caCert = "" → c.dashboard.remoteCaCert ≠ ""
  attempts : 1 ≤ c.retry.maxAttempts ∧ c.retry.maxAttempts ≤ maxRetryAttempts
  waits : c.retry.minWaitSecs ≤ c.retry.maxWaitSecs
  longest : c.retry.maxWaitSecs ≤ maxRetryWaitSecs
  release : ∃ minimum, Release.parse c.saml.minRelease = .ok minimum

theorem isValid_of_validate {c : Config} (h : c.validate = .ok ()) : c.IsValid := by
  rw [validate_eq_ok_iff] at h
  simp only [rules, List.forall_mem_cons, Rule.oneOf_keeps, Rule.must_keeps] at h
  obtain ⟨-, hformat, -, -, -, hscheme, hport, hremote, -, hattempts, hwaits, hlongest, -, hrelease,
    -⟩ := h
  refine ⟨hformat, hscheme, by simpa using hport, ?_, by simpa using hattempts,
    by simpa using hwaits, by simpa using hlongest, ?_⟩
  · intro hlocal
    simpa [hlocal] using hremote
  · cases hparse : Release.parse c.saml.minRelease with
    | ok minimum => exact ⟨minimum, rfl⟩
    | error e => simp [hparse] at hrelease

/-- A configuration that was loaded under an environment. -/
structure IsLoaded (env : Environment) (c : Config) : Prop where
  widths : c.InWidths
  /-- The environment has no more to say about it. -/
  overridden : c.override env = c
  valid : c.validate = .ok ()

variable {disk : Disk} {env : Environment} {path : String} {c : Config}

theorem settle_of_isLoaded (h : c.IsLoaded env) : settle env c = .ok c := by
  simp only [settle, h.overridden, h.valid]

theorem isLoaded_of_settle {c' : Config} (hwidths : c'.InWidths) (h : settle env c' = .ok c) :
    c.IsLoaded env := by
  dsimp only [settle] at h
  cases hvalid : (c'.override env).validate with
  | error e => simp [hvalid] at h
  | ok _ =>
    obtain rfl : c'.override env = c := by simpa [hvalid] using h
    exact ⟨hwidths.override env, override_override env c', hvalid⟩

theorem inWidths_of_ofFile (h : ofFile disk path = .ok c) : c.InWidths := by
  rw [ofFile] at h
  split at h
  · cases h
  · cases h
  · next text _ =>
    cases hparse : parse text with
    | error e => simp [hparse, Except.mapError] at h
    | ok c' =>
      obtain rfl : c' = c := by simpa [hparse, Except.mapError] using h
      exact inWidths_of_parse hparse

theorem isLoaded_of_load (h : load disk env path = .ok c) : c.IsLoaded env := by
  rw [load] at h
  cases hfile : ofFile disk path with
  | error e => simp [hfile, bind, Except.bind] at h
  | ok c' =>
    refine isLoaded_of_settle (inWidths_of_ofFile hfile) ?_
    simpa [hfile, bind, Except.bind] using h

theorem isLoaded_of_loadOrDefault (h : loadOrDefault disk env path = .ok c) : c.IsLoaded env := by
  rw [loadOrDefault] at h
  split at h
  · next c' hfile => exact isLoaded_of_settle (inWidths_of_ofFile hfile) h
  · exact isLoaded_of_settle inWidths_default h
  · cases h

/-- A file that holds what was loaded is loaded as it stands there. -/
theorem loadOrDefault_of_isLoaded {text : String} (hloaded : c.IsLoaded env)
    (hfile : disk.readText path = .ok text) (hparse : parse text = .ok c) :
    loadOrDefault disk env path = .ok c := by
  have hof : ofFile disk path = .ok c := by
    simp only [ofFile, hfile, hparse]
    rfl
  rw [loadOrDefault, hof]
  exact settle_of_isLoaded hloaded

theorem IsLoaded.isValid (h : c.IsLoaded env) : c.IsValid := isValid_of_validate h.valid

/-- A port has sixteen bits. -/
theorem InWidths.port_le (h : c.InWidths) : c.dashboard.port ≤ Number.max16 := by
  have hport := h ⟨.dashboard, "port", .number .w16 (·.dashboard.port) fun v c =>
    { c with dashboard.port := v }⟩ (by simp [settings])
  exact hport

end DashboardCheck.Config
