import DashboardCheck.Check.Context
import DashboardCheck.Proofs.Settled

/-!
# Setting up a suite

To get a certificate, units are listed, a directory is made, and a file is copied and read. Setting
up a suite does no more than that, however it ends, so an invariant that such events do not break is
not broken by setting up.
-/
namespace DashboardCheck

open Program (Keeps)

/-- What is done to get a certificate: units are listed, a directory is made, and a file is copied
and read. No request is among that, and no end of a scenario. -/
def Event.IsPreparation : Event → Prop
  | .called (.units _) => True
  | .called (.copy ..) => True
  | .made _ .directory => True
  | .read _ => True
  | _ => False

/-- No preparation breaks the invariant. -/
def StandsPreparation (keep : Program.Invariant) : Prop :=
  ∀ setting trace event, event.IsPreparation → keep setting trace →
    keep setting (trace ++ [event])

variable {keep : Program.Invariant}

namespace Program

variable {ε α : Type}

/-- A program that is one preparation. -/
theorem keeps_preparation (hkeep : StandsPreparation keep) {p : Program ε α}
    (h : ∀ setting world, ∃ event, event.IsPreparation ∧
      (p.start setting world).2.trace = world.trace ++ [event]) : Keeps keep p := by
  intro setting world hworld
  obtain ⟨event, hevent, hfinish⟩ := h setting world
  rw [hfinish]
  exact hkeep setting world.trace event hevent hworld

end Program

/-- What making a file or directory for the time being keeps, be it made or not. -/
theorem makeTemp_keeps (hkeep : StandsPreparation keep) (entry : Entry)
    (hentry : ∀ path, (Event.made path entry).IsPreparation) :
    Keeps keep ((Program.makeTemp entry).mapError CheckError.file) := by
  intro setting world h
  rw [Program.start_mapError, Program.start_makeTemp]
  cases setting.tempFault world entry with
  | some e => exact h
  | none => exact hkeep setting world.trace (.made _ entry) (hentry _) h

namespace Certificate

theorem ofFile_keeps (hkeep : StandsPreparation keep) (path : String) :
    Keeps keep (ofFile path) := by
  have hread : Keeps keep (Program.readFile path) :=
    Program.keeps_preparation hkeep fun _ _ => ⟨.read path, trivial, rfl⟩
  exact (hread.mapError _).bind fun _ => Program.keeps_ofExcept _

theorem ofUnit_keeps (hkeep : StandsPreparation keep) (application remotePath : String) :
    Keeps keep (ofUnit application remotePath) := by
  have hask : ∀ call, (Event.called call).IsPreparation → Keeps keep (Program.ask call) :=
    fun call hcall => Program.keeps_preparation hkeep fun _ _ => ⟨.called call, hcall, rfl⟩
  have hunits : Keeps keep (consult (.units application)) :=
    (hask (.units application) trivial).mapError _
  refine hunits.bind fun units => ?_
  cases units with
  | nil => exact Program.keeps_throw _
  | cons unit more =>
    refine (makeTemp_keeps hkeep .directory fun _ => trivial).bind fun directory => ?_
    have hcopy := hask (.copy unit remotePath (directory ++ "/" ++ copyName remotePath)) trivial
    exact (hcopy.mapError _).bind fun _ => (ofFile_keeps hkeep _).after_log

theorem resolve_keeps (hkeep : StandsPreparation keep) (dashboard : Config.Dashboard) :
    Keeps keep (resolve dashboard) := by
  rw [resolve]
  split
  · exact (ofFile_keeps hkeep _).after_log
  · exact ofUnit_keeps hkeep _ _

end Certificate

theorem Context.build_keeps (hkeep : StandsPreparation keep) (config : Config) :
    Keeps keep (build config) := by
  refine .after_log ((Certificate.resolve_keeps hkeep config.dashboard).bind fun ca => ?_)
  exact (Program.keeps_ofExcept _).bind fun _ => (Program.keeps_ofExcept (.ok _)).after_log

variable {earlier trace : Trace} {setting : Setting}

/-- Since this was done, there were only preparations. -/
def PreparedSince (earlier : Trace) : Program.Invariant := fun _ trace =>
  ∃ events, trace = earlier ++ events ∧ ∀ event ∈ events, event.IsPreparation

theorem preparedSince_self : PreparedSince trace setting trace :=
  ⟨[], by simp, by simp⟩

theorem standsPreparation_preparedSince : StandsPreparation (PreparedSince earlier) := by
  rintro setting trace event hevent ⟨events, rfl, hevents⟩
  refine ⟨events ++ [event], List.append_assoc .., ?_⟩
  simpa [or_imp, forall_and] using ⟨hevents, hevent⟩

/-- Preparations are no requests. -/
theorem PreparedSince.requests_eq (h : PreparedSince earlier setting trace) :
    trace.requests = earlier.requests := by
  obtain ⟨events, rfl, hevents⟩ := h
  have hnone : Trace.requests events = [] := by
    rw [Trace.requests, List.filterMap_eq_nil_iff]
    intro event hevent
    have hprepares := hevents event hevent
    cases event with
    | sent request => exact absurd hprepares id
    | _ => rfl
  have hsplit : Trace.requests (earlier ++ events) = earlier.requests ++ Trace.requests events :=
    List.filterMap_append
  rw [hsplit, hnone, List.append_nil]

/-- Setting up does nothing but prepare, be it in vain or not. -/
theorem Context.preparedSince_build (config : Config) (setting : Setting) (world : World) :
    PreparedSince world.trace setting ((build config).start setting world).2.trace :=
  build_keeps standsPreparation_preparedSince config setting world preparedSince_self

end DashboardCheck
