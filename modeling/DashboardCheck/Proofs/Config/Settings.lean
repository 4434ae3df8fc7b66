import DashboardCheck.Config.Environment
import DashboardCheck.Config.Reading
import Mathlib.Data.List.Pairwise

/-!
# Settings, one by one

A configuration is what its nineteen settings hold. Each of them can be changed, and that changes no
other. So when a row of settings is changed, one after the other, each of them holds in the end what
it was given.
-/
namespace DashboardCheck.Config

open Document

inductive Held where
  | text (s : String)
  | number (n : Nat)
  deriving DecidableEq, Repr

namespace Setting

def held (setting : Setting) (c : Config) : Held :=
  match setting.slot with
  | .text get _ => .text (get c)
  | .number _ get _ => .number (get c)

def put (setting : Setting) (held : Held) (c : Config) : Config :=
  match setting.slot, held with
  | .text _ put, .text s => put s c
  | .number _ _ put, .number n => put n c
  | _, _ => c

/-- The same if there is something to hold. -/
def change (setting : Setting) (held : Option Held) (c : Config) : Config :=
  match held with
  | some held => setting.put held c
  | none => c

def Fits (setting : Setting) (held : Held) : Prop :=
  match setting.slot, held with
  | .text .., .text _ => True
  | .number .., .number _ => True
  | _, _ => False

/-- Neither of two settings changes with the other. -/
def Independent (s t : Setting) : Prop :=
  (∀ held c, s.held (t.put held c) = s.held c) ∧ ∀ held c, t.held (s.put held c) = t.held c

instance : Std.Symm Independent := ⟨fun _ _ h => ⟨h.2, h.1⟩⟩

variable {s : Setting}

theorem fits_held (c : Config) : s.Fits (s.held c) := by
  obtain ⟨part, name, slot⟩ := s
  cases slot <;> trivial

theorem Independent.change {t : Setting} (h : s.Independent t) (held : Option Held) (c : Config) :
    s.held (t.change held c) = s.held c := by
  cases held with
  | none => rfl
  | some held => exact h.1 held c

end Setting

theorem settings_independent : settings.Pairwise Setting.Independent := by
  simp only [settings, List.pairwise_cons, List.forall_mem_cons, List.not_mem_nil,
    false_implies, implies_true, and_true, List.Pairwise.nil]
  repeat' apply And.intro
  all_goals
    intro held c
    cases held <;> rfl

theorem held_put {s : Setting} (h : s ∈ settings) {held : Held} (hfits : s.Fits held) (c : Config) :
    s.held (s.put held c) = held := by
  revert held c
  revert s
  simp only [settings, List.forall_mem_cons, List.not_mem_nil, false_implies, implies_true,
    and_true]
  repeat' apply And.intro
  all_goals
    intro held hfits c
    cases held with
    | text s => first | rfl | exact absurd hfits id
    | number n => first | rfl | exact absurd hfits id

/-- A configuration is what its settings hold. -/
theorem ext_held {c c' : Config} (h : ∀ s ∈ settings, s.held c = s.held c') : c = c' := by
  simp only [settings, List.forall_mem_cons, List.not_mem_nil, false_implies, implies_true,
    and_true, Setting.held, Held.text.injEq, Held.number.injEq] at h
  obtain ⟨⟨_, _⟩, ⟨_, _, _⟩, ⟨_, _, _, _, _, _, _, _⟩, ⟨_, _, _, _⟩, ⟨_, _⟩⟩ := c
  simp_all

theorem independent_of_ne {s t : Setting} (hs : s ∈ settings) (ht : t ∈ settings) (hne : s ≠ t) :
    s.Independent t :=
  settings_independent.forall hs ht hne

theorem held_change {s : Setting} (h : s ∈ settings) {held : Option Held}
    (hfits : ∀ value, held = some value → s.Fits value) (c : Config) :
    s.held (s.change held c) = held.getD (s.held c) := by
  cases held with
  | none => rfl
  | some value => exact held_put h (hfits value rfl) c

section Many

variable (row : List Setting) (given : Setting → Option Held)

def changeAll (c : Config) : Config := row.foldl (fun c s => s.change (given s) c) c

variable {row given}

theorem held_changeAll_other {s : Setting} (h : ∀ t ∈ row, s.Independent t) (c : Config) :
    s.held (changeAll row given c) = s.held c := by
  induction row generalizing c with
  | nil => rfl
  | cons t rest ih =>
    have hrest := ih (fun t' ht' => h t' (List.mem_cons_of_mem t ht')) (t.change (given t) c)
    exact hrest.trans ((h t List.mem_cons_self).change (given t) c)

/-- A row of changes to settings that do not depend on each other leaves each with what it was
given. -/
theorem held_changeAll {s : Setting} (hrow : row.Pairwise Setting.Independent)
    (hsettings : ∀ t ∈ row, t ∈ settings) (hs : s ∈ row)
    (hfits : ∀ value, given s = some value → s.Fits value) (c : Config) :
    s.held (changeAll row given c) = (given s).getD (s.held c) := by
  induction row generalizing c with
  | nil => simp at hs
  | cons t rest ih =>
    rw [List.pairwise_cons] at hrow
    have hstep : changeAll (t :: rest) given c = changeAll rest given (t.change (given t) c) := rfl
    rw [hstep]
    rcases List.mem_cons.mp hs with rfl | hrest
    · rw [held_changeAll_other hrow.1, held_change (hsettings s hs) hfits]
    · rw [ih hrow.2 (fun t' ht' => hsettings t' (List.mem_cons_of_mem t ht')) hrest]
      have hkeep : s.held (t.change (given t) c) = s.held c := by
        have hsym : s.Independent t := Std.Symm.symm _ _ (hrow.1 s hrest)
        exact hsym.change (given t) c
      rw [hkeep]

end Many

/-- What the value of a variable means for a setting: texts as they are, and numbers that fit. -/
def Setting.ofVariable? (s : Setting) (value : String) : Option Held :=
  match s.slot with
  | .text .. => some (.text value)
  | .number width .. => (Number.natural? width.limit value.toList).map .number

def Setting.fromEnvironment? (s : Setting) (env : Environment) : Option Held :=
  (env.text? s.variable).bind s.ofVariable?

theorem Setting.fits_fromEnvironment? (s : Setting) (env : Environment) {value : Held}
    (h : s.fromEnvironment? env = some value) : s.Fits value := by
  obtain ⟨given, -, hvalue⟩ := Option.bind_eq_some_iff.mp h
  obtain ⟨part, name, slot⟩ := s
  cases slot with
  | text get put =>
    cases hvalue
    trivial
  | number width get put =>
    obtain ⟨n, -, rfl⟩ := Option.map_eq_some_iff.mp hvalue
    trivial

theorem Setting.override_eq (s : Setting) (env : Environment) (c : Config) :
    s.override env c = s.change (s.fromEnvironment? env) c := by
  rw [Setting.override, fromEnvironment?]
  cases env.text? s.variable with
  | none => rfl
  | some value =>
    obtain ⟨part, name, slot⟩ := s
    cases slot with
    | text get put => rfl
    | number width get put =>
      dsimp only [Option.bind_some, ofVariable?]
      cases Number.natural? width.limit value.toList <;> rfl

theorem override_eq (env : Environment) (c : Config) :
    c.override env = changeAll settings (·.fromEnvironment? env) c := by
  have hstep : (fun c (s : Setting) => s.override env c) =
      fun c s => s.change (s.fromEnvironment? env) c := by
    funext c s
    exact s.override_eq env c
  rw [override, changeAll, hstep]

/-- Each setting holds what the environment says about it, if it says anything. -/
theorem held_override {s : Setting} (h : s ∈ settings) (env : Environment) (c : Config) :
    s.held (c.override env) = (s.fromEnvironment? env).getD (s.held c) := by
  rw [override_eq]
  exact held_changeAll settings_independent (fun _ ht => ht) h
    (fun value hvalue => s.fits_fromEnvironment? env hvalue) c

theorem mem_part_settings {s : Setting} {part : Part} :
    s ∈ part.settings ↔ s ∈ settings ∧ s.part = part := by
  simp [Part.settings]

theorem Setting.copy_eq (s : Setting) (other c : Config) :
    s.copy other c = s.change (some (s.held other)) c := by
  obtain ⟨part, name, slot⟩ := s
  cases slot <;> rfl

theorem Part.copy_eq (part : Part) (other c : Config) :
    part.copy other c = changeAll part.settings (fun s => some (s.held other)) c := by
  have hstep : (fun c (s : Setting) => s.copy other c) =
      fun c s => s.change (some (s.held other)) c := by
    funext c s
    exact s.copy_eq other c
  rw [Part.copy, changeAll, hstep]

theorem held_copy {s : Setting} {part : Part} (h : s ∈ part.settings) (other c : Config) :
    s.held (part.copy other c) = s.held other := by
  rw [Part.copy_eq]
  refine held_changeAll (settings_independent.filter _) ?_ h ?_ c
  · exact fun t ht => (mem_part_settings.mp ht).1
  · rintro value hvalue
    cases hvalue
    exact Setting.fits_held other

theorem held_copy_other {s : Setting} {part : Part} (h : s ∈ settings) (hpart : s.part ≠ part)
    (other c : Config) : s.held (part.copy other c) = s.held c := by
  rw [Part.copy_eq]
  refine held_changeAll_other ?_ c
  intro t ht
  obtain ⟨hmem, htpart⟩ := mem_part_settings.mp ht
  refine independent_of_ne h hmem ?_
  rintro rfl
  exact hpart htpart

end DashboardCheck.Config
