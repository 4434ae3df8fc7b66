import DashboardCheck.Proofs.Orchestrator.Mock
import DashboardCheck.Proofs.Replay

/-!
# What an orchestrator in memory records and stores

What is recorded can be read off the calls: it is what they ask for of applications that are known,
in order. So can the settings of an application: they are those that were given, with all that calls
wrote for it laid over them. A call that fails is as good as one that was never made, whatever is
done afterwards.
-/
namespace DashboardCheck

namespace Call

def action? : Call → Option ActionCall
  | .action application name params => some ⟨application, name, params⟩
  | _ => none

def command? : Call → Option (String × String)
  | .command application text => some (application, text)
  | _ => none

def change? : Call → Option (String × Dict String)
  | .configure application changes => some (application, changes)
  | _ => none

def written (application : String) : Call → Dict String
  | .configure other changes => if other = application then changes else []
  | _ => []

end Call

namespace Mock

variable {m : Mock}

/-- What is recorded after these calls: what they ask for of known applications, and no more. -/
structure Recorded (m : Mock) (calls : List Call) (later : Mock) : Prop where
  actions : later.actions =
    m.actions ++ (calls.filterMap Call.action?).filter fun entry => m.knows entry.application
  commands : later.commands =
    m.commands ++ (calls.filterMap Call.command?).filter fun entry => m.knows entry.1
  changes : later.changes =
    m.changes ++ (calls.filterMap Call.change?).filter fun entry => m.knows entry.1

theorem recorded_after (m : Mock) (call : Call) : m.Recorded [call] (m.after call) := by
  cases call with
  | action application name params =>
    by_cases h : m.knows application = true <;> constructor <;>
      simp [after, Call.action?, Call.command?, Call.change?, h]
  | command application text =>
    by_cases h : m.knows application = true <;> constructor <;>
      simp [after, Call.action?, Call.command?, Call.change?, h]
  | configure application changes =>
    by_cases h : m.knows application = true <;> constructor <;>
      simp [after, Call.action?, Call.command?, Call.change?, h]
  | _ => constructor <;> simp [after, Call.action?, Call.command?, Call.change?]

/-- What two rows of calls leave, one after the other. -/
theorem Recorded.append {m' m'' : Mock} {calls more : List Call} (h : m.Recorded calls m')
    (hknows : m'.knows = m.knows) (h' : m'.Recorded more m'') : m.Recorded (calls ++ more) m'' := by
  constructor
  · rw [h'.actions, h.actions, hknows, List.filterMap_append, List.filter_append, List.append_assoc]
  · rw [h'.commands, h.commands, hknows, List.filterMap_append, List.filter_append,
      List.append_assoc]
  · rw [h'.changes, h.changes, hknows, List.filterMap_append, List.filter_append, List.append_assoc]

theorem recorded_afterAll (m : Mock) (calls : List Call) : m.Recorded calls (m.afterAll calls) := by
  induction calls generalizing m with
  | nil => constructor <;> simp [afterAll]
  | cons call rest ih =>
    exact (recorded_after m call).append (after_knows m call) (ih (m.after call))

def serving (m : Mock) (setting : Setting) : Setting :=
  { setting with orchestrator := m.orchestrator }

variable {world world' : World} {setting : Setting}

def options (m : Mock) (application : String) : Dict Json.Value :=
  (m.settings.get? application).getD []

/-- A call leaves its settings over those of before, in its own application. -/
theorem after_options {application : String} (h : m.knows application = true) (call : Call) :
    (m.after call).options application =
      Dict.overlay (m.options application)
        (Dict.mapValues Json.Value.string (call.written application)) := by
  cases call with
  | configure other settings =>
    rw [Call.written, after]
    by_cases heq : other = application
    · subst heq
      rw [if_pos h, if_pos rfl, options, Dict.get?_insert_self, ← options]
      rfl
    · rw [if_neg heq]
      split
      · rw [options, Dict.get?_insert_other _ _ (Ne.symm heq), ← options]
        rfl
      · rfl
  | action other action params =>
    rw [after]
    split <;> rfl
  | command other command =>
    rw [after]
    split <;> rfl
  | _ => rfl

/-- All that was written for an application is laid over the settings that it had. -/
theorem afterAll_options {application : String} (h : m.knows application = true)
    (calls : List Call) :
    (m.afterAll calls).options application =
      Dict.overlay (m.options application)
        (Dict.mapValues Json.Value.string (calls.flatMap (Call.written application))) := by
  rw [afterAll]
  induction calls generalizing m with
  | nil => rfl
  | cons call rest ih =>
    rw [List.foldl_cons, ih (by rw [after_knows, h]), after_options h, List.flatMap_cons,
      Dict.mapValues_append, Dict.overlay_append]

/-- Settings are answered from what was recorded so far. -/
theorem serving_settings (application : String) :
    (m.serving setting).orchestrator world (.settings application) =
      (m.require application (.ok ((m.since world.trace).options application)), world.disk) := by
  have hanswer : (m.serving setting).orchestrator world (.settings application) =
      ((m.since world.trace).require application
        (.ok ((m.since world.trace).options application)), world.disk) := rfl
  rw [hanswer, require, require, since_knows]

/-- A change of the settings of one application is not seen in those of another. -/
theorem serving_settings_other {application other : String} (changes : Dict String)
    (h : other ≠ application) :
    (m.serving setting).orchestrator
        ((m.serving setting).step world (.called (.configure other changes)))
        (.settings application) =
      (m.serving setting).orchestrator world (.settings application) := by
  have hdisk :
      ((m.serving setting).step world (.called (.configure other changes))).disk = world.disk := rfl
  rw [serving_settings, serving_settings, Setting.step_trace, since_called, hdisk, require, require]
  by_cases hknows : m.knows application = true
  · have hstate : (m.since world.trace).knows application = true := by rw [since_knows, hknows]
    rw [after_options hstate, Call.written, if_neg h]
    rfl
  · rw [if_neg hknows, if_neg hknows]

/-- What a call needs is not there: the application, the unit, the series or the file, or a place
to copy the file to. -/
def Lacks (m : Mock) (disk : Disk) : Call → Prop
  | .address unit => m.address? unit = none
  | .names => False
  | .series application => m.knows application = false ∨ m.series.get? application = none
  | .copy unit remotePath localPath =>
    ∀ content, m.files.get? s!"{unit}:{remotePath}" = some content →
      ∃ e, disk.write localPath (Text.encode content) = .error e
  | .units application | .action application _ _ | .command application _
  | .settings application | .configure application _ => m.knows application = false

/-- A request fails for want of the application, or for a reason of its own. -/
theorem require_eq_error_iff {α : Type} {application : String}
    {answer : Except OrchestratorError α} :
    (∃ e, m.require application answer = .error e) ↔
      m.knows application = false ∨ ∃ e, answer = .error e := by
  rw [require]
  cases m.knows application <;> simp

theorem AlikeGiven.lacks {m' : Mock} (h : m.AlikeGiven m') (disk : Disk) (call : Call) :
    m.Lacks disk call ↔ m'.Lacks disk call := by
  cases call <;> simp only [Lacks, h.knows, h.series, h.files, address?, h.units]

/-- A call fails exactly if something that it needs is not there. -/
theorem fails_iff_lacks (call : Call) :
    (∃ e, ((m.serving setting).orchestrator world call).1 = .error e) ↔
      m.Lacks world.disk call := by
  rw [← (since_given m world.trace).lacks]
  have hknown : ∀ {α : Type} {application : String} {answer : α},
      (∃ e, (m.since world.trace).require application (.ok answer) = .error e) ↔
        (m.since world.trace).knows application = false := by
    intro α application answer
    rw [require_eq_error_iff]
    simp
  cases call with
  | address unit =>
    have hanswer : ((m.serving setting).orchestrator world (.address unit)).1 =
        (m.since world.trace).answer (.address unit) := rfl
    rw [hanswer, answer, Lacks]
    cases (m.since world.trace).address? unit <;> simp
  | names =>
    refine iff_of_false ?_ id
    rintro ⟨e, he⟩
    cases he
  | series application =>
    have hanswer : ((m.serving setting).orchestrator world (.series application)).1 =
        (m.since world.trace).answer (.series application) := rfl
    rw [hanswer, answer, require_eq_error_iff, Lacks]
    cases (m.since world.trace).series.get? application <;> simp
  | copy unit remotePath localPath =>
    have hanswer : ((m.serving setting).orchestrator world (.copy unit remotePath localPath)).1 =
        ((m.since world.trace).copy world.disk unit remotePath localPath).1 := rfl
    rw [hanswer, copy, file, Lacks]
    cases (m.since world.trace).files.get? s!"{unit}:{remotePath}" with
    | none => simp
    | some content =>
      simp only [Option.some.injEq, forall_eq']
      cases world.disk.write localPath (Text.encode content) <;> simp
  -- the others need nothing but the application
  | units application => exact hknown
  | action application name params => exact hknown
  | command application text => exact hknown
  | settings application => exact hknown
  | configure application changes => exact hknown

/-- A call that fails changes neither the orchestrator nor the disk. -/
theorem after_of_error {call : Call} {e : OrchestratorError}
    (h : (m.orchestrator world call).1 = .error e) :
    (m.since world.trace).after call = m.since world.trace ∧
      (m.orchestrator world call).2 = world.disk := by
  have hunknown : ∀ {α : Type} {application : String} {answer : α},
      (m.since world.trace).require application (.ok answer) = .error e →
        (m.since world.trace).knows application = false := by
    intro α application answer hrequire
    rw [require] at hrequire
    split at hrequire
    · cases hrequire
    · next hknows => simpa using hknows
  cases call with
  | action application action params =>
    have hknows : (m.since world.trace).knows application = false := hunknown h
    exact ⟨by rw [after, if_neg (by simp [hknows])], rfl⟩
  | command application command =>
    have hknows : (m.since world.trace).knows application = false := hunknown h
    exact ⟨by rw [after, if_neg (by simp [hknows])], rfl⟩
  | configure application settings =>
    have hknows : (m.since world.trace).knows application = false := hunknown h
    exact ⟨by rw [after, if_neg (by simp [hknows])], rfl⟩
  | copy unit remotePath localPath =>
    refine ⟨rfl, ?_⟩
    rw [orchestrator, copy] at h ⊢
    split at h
    · rfl
    · split at h
      · rfl
      · cases h
  | _ => exact ⟨rfl, rfl⟩

/-- Worlds in which the orchestrator has come to the same point, with the same disk. -/
structure Same (m : Mock) (world world' : World) : Prop where
  state : m.since world.trace = m.since world'.trace
  disk : world.disk = world'.disk

theorem Same.orchestrator (h : m.Same world world') (call : Call) :
    m.orchestrator world call = m.orchestrator world' call := by
  have hstate : m.afterAll world.trace.calls = m.afterAll world'.trace.calls := h.state
  cases call <;> simp only [Mock.orchestrator, hstate, h.disk]

theorem Same.step (h : m.Same world world') (event : Event) :
    m.Same ((m.serving setting).step world event) ((m.serving setting).step world' event) := by
  constructor
  · rw [Setting.step_trace, Setting.step_trace, since_append, since_append, h.state]
  · cases event with
    | called call => exact congrArg Prod.snd (h.orchestrator call)
    | made path entry => simp only [Setting.step, World.make, h.disk]
    | _ => exact h.disk

/-- Nothing that is done later tells the two worlds apart. -/
theorem Same.replay (h : m.Same world world') (later : Trace) :
    m.Same ((m.serving setting).replay world later) ((m.serving setting).replay world' later) := by
  induction later generalizing world world' with
  | nil => exact h
  | cons event rest ih => exact ih (h.step event)

/-- A call that fails leaves no mark. -/
theorem same_of_error {call : Call} {e : OrchestratorError}
    (h : (m.orchestrator world call).1 = .error e) :
    m.Same ((m.serving setting).step world (.called call)) world := by
  obtain ⟨hafter, hdisk⟩ := after_of_error h
  refine ⟨?_, hdisk⟩
  rw [Setting.step_trace, since_called, hafter]

/-- A call makes no difference: whatever is done later, the records are as without it, and so are
the answer to any call and the disk that it leaves behind. -/
def LeavesNoMark (m : Mock) (setting : Setting) (world : World) (call : Call) : Prop :=
  ∀ later : Trace,
    m.since ((m.serving setting).replay world (.called call :: later)).trace =
        m.since ((m.serving setting).replay world later).trace ∧
      ∀ next,
        (m.serving setting).orchestrator
            ((m.serving setting).replay world (.called call :: later)) next =
          (m.serving setting).orchestrator ((m.serving setting).replay world later) next

/-- At any point the records are what calls have asked for of known applications, in order. A known
application has the settings that it was given with all that was written for it laid over them, so
that of each name the last write stays, whatever is written for others. A call fails exactly if
something that it needs is not there, and then leaves no mark. -/
theorem recorded_and_stored (m : Mock) (setting : Setting) (world : World) :
    m.Recorded world.trace.calls (m.since world.trace) ∧
    (∀ application,
      (m.knows application = true → ∃ options,
        (m.serving setting).orchestrator world (.settings application) =
          (.ok options, world.disk) ∧
        options = Dict.overlay (m.options application) (Dict.mapValues Json.Value.string
          (world.trace.calls.flatMap (Call.written application))) ∧
        ∀ name, Dict.get? options name =
          ((Dict.get? (world.trace.calls.flatMap (Call.written application)).reverse name).map
            Json.Value.string).or (Dict.get? (m.options application) name)) ∧
      (m.knows application = false →
        (m.serving setting).orchestrator world (.settings application) =
          (.error (.applicationNotFound application), world.disk)) ∧
      ∀ other changes, other ≠ application →
        (m.serving setting).orchestrator
            ((m.serving setting).step world (.called (.configure other changes)))
            (.settings application) =
          (m.serving setting).orchestrator world (.settings application)) ∧
    ∀ call,
      ((∃ e, ((m.serving setting).orchestrator world call).1 = .error e) ↔
        m.Lacks world.disk call) ∧
      ∀ e, ((m.serving setting).orchestrator world call).1 = .error e →
        m.LeavesNoMark setting world call := by
  refine ⟨recorded_afterAll m _, fun application => ⟨fun hknows => ?_, fun hunknown => ?_,
    fun other changes => serving_settings_other changes⟩,
    fun call => ⟨fails_iff_lacks call, fun e hfails later => ?_⟩⟩
  · have hoptions := afterAll_options hknows world.trace.calls
    refine ⟨_, ?_, hoptions, fun name => ?_⟩
    · rw [serving_settings, require, if_pos hknows]
      rfl
    · rw [hoptions, Dict.get?_overlay, ← Dict.mapValues_reverse, Dict.get?_mapValues]
  · rw [serving_settings, require, if_neg (by simp [hunknown])]
  · have hsame : m.Same ((m.serving setting).replay world (.called call :: later))
        ((m.serving setting).replay world later) := (same_of_error hfails).replay later
    exact ⟨hsame.state, hsame.orchestrator⟩

end Mock

end DashboardCheck
