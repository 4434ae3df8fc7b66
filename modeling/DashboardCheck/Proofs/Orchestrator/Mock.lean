import DashboardCheck.Check.Saml
import DashboardCheck.Check.User
import DashboardCheck.Orchestrator.Mock
import DashboardCheck.Proofs.Dict
import DashboardCheck.Proofs.World

/-!
# What calls leave behind in an orchestrator in memory

Calls record actions, commands and changes of settings. None of that changes what is answered later,
except to the same user made again and except to those settings that were changed; the package
source of an application is not among those that single sign-on changes.
-/
namespace DashboardCheck

def OmitSource (settings : Dict String) : Prop :=
  ∀ name ∈ sourceSettings, name ∉ Dict.names settings

/-- Settings that do not concern the package source leave it as it was. -/
theorem sourceOf_overlay {settings : Dict String} (old : Dict Json.Value)
    (h : OmitSource settings) :
    sourceOf (Dict.overlay old (Dict.mapValues Json.Value.string settings)) = sourceOf old := by
  have hget : ∀ name ∈ sourceSettings,
      Dict.get? (Dict.overlay old (Dict.mapValues Json.Value.string settings)) name =
        Dict.get? old name :=
    fun name hname => Dict.get?_overlay_other old (by simpa using h name hname)
  rw [sourceOf, sourceOf]
  simp only [sourceSettings, List.mem_cons, List.not_mem_nil, or_false, forall_eq_or_imp,
    forall_eq] at hget
  simp only [sourceSettings, List.findSome?_cons, List.findSome?_nil, hget]

theorem samlSettings_omitSource (url file : String) : OmitSource (samlSettings url file) := by
  intro name hname
  have hnames : name ∈ Dict.names (samlSettings url file) ↔
      name = "saml-idp-metadata" ∨ name = "saml-base-url" := by
    rw [samlSettings, Dict.ofList, List.foldl_cons, List.foldl_cons, List.foldl_nil,
      Dict.mem_names_insert, Dict.mem_names_insert]
    simp [Dict.names]
  rw [hnames]
  clear hnames
  revert name
  decide

/-- A call that is answered from what was given, not from what was recorded or changed. -/
def Call.IsFixed : Call → Prop
  | .action .. => False
  | .settings _ => False
  | .copy .. => False
  | _ => True

def Call.KeepsSource : Call → Prop
  | .configure _ changes => OmitSource changes
  | _ => True

namespace Mock

/-- An orchestrator after the calls of a record. -/
def since (m : Mock) (trace : Trace) : Mock := m.afterAll trace.calls

variable {m m' m'' : Mock} {trace : Trace}

@[simp] theorem since_nil : m.since [] = m := rfl

@[simp] theorem since_called (call : Call) :
    m.since (trace ++ [.called call]) = (m.since trace).after call := by
  simp [since, afterAll]

@[simp] theorem since_named (name : String) : m.since (trace ++ [.named name]) = m.since trace := by
  simp [since]

theorem since_quiet {event : Event} (h : event.IsQuiet) :
    m.since (trace ++ [event]) = m.since trace := by
  rw [since, since, Trace.calls_append_quiet h]

theorem since_append (m : Mock) (trace later : Trace) :
    m.since (trace ++ later) = (m.since trace).since later := by
  simp [since, afterAll, Trace.calls]

/-- Two orchestrators that know the same units and applications, with the same series and files. -/
structure AlikeGiven (m m' : Mock) : Prop where
  units : m.units = m'.units
  applications : m.applications = m'.applications
  series : m.series = m'.series
  files : m.files = m'.files

theorem AlikeGiven.knows (h : m.AlikeGiven m') : m.knows = m'.knows := by
  funext application
  rw [Mock.knows, Mock.knows, h.units, h.applications]

theorem after_given (m : Mock) (call : Call) : (m.after call).AlikeGiven m := by
  rw [after.eq_def]
  split
  · split <;> exact ⟨rfl, rfl, rfl, rfl⟩
  · split <;> exact ⟨rfl, rfl, rfl, rfl⟩
  · split <;> exact ⟨rfl, rfl, rfl, rfl⟩
  · exact ⟨rfl, rfl, rfl, rfl⟩

/-- No call adds or takes away what was given. -/
theorem since_given (m : Mock) (trace : Trace) : (m.since trace).AlikeGiven m := by
  rw [since, afterAll]
  induction trace.calls generalizing m with
  | nil => exact ⟨rfl, rfl, rfl, rfl⟩
  | cons call rest ih =>
    have hrest : (rest.foldl after (m.after call)).AlikeGiven (m.after call) := ih (m.after call)
    have hcall := after_given m call
    exact ⟨hrest.units.trans hcall.units, hrest.applications.trans hcall.applications,
      hrest.series.trans hcall.series, hrest.files.trans hcall.files⟩

theorem after_knows (m : Mock) (call : Call) : (m.after call).knows = m.knows :=
  (after_given m call).knows

theorem since_knows (m : Mock) (trace : Trace) (application : String) :
    (m.since trace).knows application = m.knows application := by
  rw [(since_given m trace).knows]

/-- Two orchestrators that differ only in what was recorded, and in settings other than package
sources. -/
structure Agrees (m m' : Mock) : Prop where
  units : m.units = m'.units
  applications : m.applications = m'.applications
  series : m.series = m'.series
  onAction : m.onAction = m'.onAction
  onCommand : m.onCommand = m'.onCommand
  source : ∀ application, sourceOf ((m.settings.get? application).getD []) =
    sourceOf ((m'.settings.get? application).getD [])

theorem Agrees.refl (m : Mock) : m.Agrees m := ⟨rfl, rfl, rfl, rfl, rfl, fun _ => rfl⟩

theorem Agrees.trans (h : m.Agrees m') (h' : m'.Agrees m'') : m.Agrees m'' :=
  ⟨h.units.trans h'.units, h.applications.trans h'.applications, h.series.trans h'.series,
    h.onAction.trans h'.onAction, h.onCommand.trans h'.onCommand,
    fun application => (h.source application).trans (h'.source application)⟩

theorem Agrees.knows (h : m.Agrees m') (application : String) :
    m.knows application = m'.knows application := by
  rw [Mock.knows, Mock.knows, h.units, h.applications]

/-- What changes no package source leaves an orchestrator that agrees. -/
theorem after_agrees (m : Mock) (call : Call) (h : call.KeepsSource) : (m.after call).Agrees m := by
  cases call with
  | action application action params =>
    rw [after]
    split <;> exact ⟨rfl, rfl, rfl, rfl, rfl, fun _ => rfl⟩
  | command application command =>
    rw [after]
    split <;> exact ⟨rfl, rfl, rfl, rfl, rfl, fun _ => rfl⟩
  | configure application settings =>
    rw [after]
    split
    · refine ⟨rfl, rfl, rfl, rfl, rfl, fun other => ?_⟩
      by_cases hother : other = application
      · subst hother
        rw [Dict.get?_insert_self]
        exact sourceOf_overlay _ h
      · rw [Dict.get?_insert_other _ _ hother]
    · exact Agrees.refl m
  | _ => exact Agrees.refl m

/-- Only actions are recorded as such. -/
theorem after_actions (m : Mock) {call : Call}
    (h : ∀ application action params, call ≠ .action application action params) :
    (m.after call).actions = m.actions := by
  cases call with
  | action application action params => exact absurd rfl (h application action params)
  | command application command =>
    rw [after]
    split <;> rfl
  | configure application settings =>
    rw [after]
    split <;> rfl
  | _ => rfl

/-- What comes of a command is a matter of the application and the command only. -/
def CommandsFixed (m : Mock) : Prop :=
  ∀ handler, m.onCommand = some handler → ∀ earlier earlier' application command,
    handler earlier application command = handler earlier' application command

/-- Recorders that agree answer commands alike, if the answers are fixed. -/
theorem Agrees.execute (h : m.Agrees m') (hcommands : m'.CommandsFixed)
    (application command : String) :
    m.execute application command = m'.execute application command := by
  rw [Mock.execute, Mock.execute, h.onCommand]
  cases hhandler : m'.onCommand with
  | some handler => exact hcommands handler hhandler _ _ application command
  | none => simp only [leaderUnit, h.units]

theorem Agrees.answer (h : m.Agrees m') (hcommands : m'.CommandsFixed) {call : Call}
    (hfixed : call.IsFixed) : m.answer call = m'.answer call := by
  cases call with
  | units application => simp only [Mock.answer, require, h.knows, h.units]
  | address unit => simp only [Mock.answer, address?, h.units]
  | command application command =>
    simp only [Mock.answer, require, h.knows, h.execute hcommands]
  | names => simp only [Mock.answer, Mock.names, h.units, h.applications]
  | configure application settings => simp only [Mock.answer, require, h.knows]
  | series application => simp only [Mock.answer, require, h.knows, h.series]
  | action application action params => exact hfixed.elim
  | settings application => exact hfixed.elim
  | copy unit remotePath localPath => exact hfixed.elim

end Mock

def ActionCall.username (call : ActionCall) : String := (call.params.get? "username").getD ""

def ActionOutcome.hasPassword (o : ActionOutcome) : Bool :=
  ((o.result? "password").filter fun password => !password.isEmpty).isSome

/-- A completed action that tells a password is one that a password can be taken from. -/
theorem passwordOf_given {outcome : ActionOutcome} (scenario : String)
    (hstatus : outcome.status = .completed) (h : outcome.hasPassword = true) :
    ∃ password, passwordOf outcome scenario = .ok password := by
  obtain ⟨password, hpassword⟩ := Option.isSome_iff_exists.mp h
  refine ⟨password, ?_⟩
  rw [passwordOf, hstatus, hpassword]
  rfl

/-- A completed action without a password is told as such. -/
theorem passwordOf_missing {outcome : ActionOutcome} (scenario : String)
    (hstatus : outcome.status = .completed) (h : outcome.hasPassword = false) :
    passwordOf outcome scenario =
      .error (.assertion scenario "add-user completed without a password") := by
  have hnone := Option.isSome_eq_false_iff.mp h
  rw [Option.isNone_iff_eq_none] at hnone
  rw [passwordOf, hstatus, hnone]
  rfl

namespace Mock

/-- Actions complete once for each user and fail from then on. Without a handler they complete
always, with nothing to tell. -/
def CompletesOnce (m : Mock) : Prop :=
  ∀ handler, m.onAction = some handler → ∀ earlier call, (handler earlier call).status =
    if earlier.any (fun c => c.username == call.username) then .failed else .completed

/-- All new users are given a password, or none is. -/
def PasswordsAlike (m : Mock) : Prop :=
  ∀ handler, m.onAction = some handler → ∃ given, ∀ earlier call,
    (handler earlier call).status = .completed → (handler earlier call).hasPassword = given

/-- A new user is made, with or without a password as all users are; one that is there is not made
again, wherever a password could be had. -/
theorem act_alike (honce : m.CompletesOnce) (halike : m.PasswordsAlike) :
    ∃ given, ∀ state : Mock, state.Agrees m → ∀ call : ActionCall,
      ((∀ c ∈ state.actions, c.username ≠ call.username) →
        (state.act call).status = .completed ∧ (state.act call).hasPassword = given) ∧
      ((∃ c ∈ state.actions, c.username = call.username) → given = true →
        (state.act call).status = .failed) := by
  cases hhandler : m.onAction with
  | none =>
    refine ⟨false, fun state hstate call => ⟨fun _ => ?_, by simp⟩⟩
    rw [act, hstate.onAction, hhandler]
    exact ⟨rfl, rfl⟩
  | some handler =>
    obtain ⟨given, hgiven⟩ := halike handler hhandler
    refine ⟨given, fun state hstate call => ?_⟩
    have hact : state.act call = handler state.actions call := by
      rw [act, hstate.onAction, hhandler]
    have hstatus := honce handler hhandler state.actions call
    rw [hact]
    constructor
    · intro hnew
      have hany : (state.actions.any fun c => c.username == call.username) = false := by
        simpa using hnew
      rw [hany, if_neg Bool.false_ne_true] at hstatus
      exact ⟨hstatus, hgiven state.actions call hstatus⟩
    · intro hused _
      have hany : (state.actions.any fun c => c.username == call.username) = true := by
        simpa using hused
      rw [hstatus, if_pos hany]

end Mock

end DashboardCheck
