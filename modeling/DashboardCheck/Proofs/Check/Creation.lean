import DashboardCheck.Proofs.Check.Suite
import DashboardCheck.Proofs.Check.Users
import DashboardCheck.Proofs.Course

/-!
# Making a user, and making it again

A user is made under a new name. If the answer hands over a password there is more to do with the
user, otherwise making it is all that is done. One scenario makes the user a second time, and all is
well exactly if that fails.
-/
namespace DashboardCheck

open Program (Does)

theorem isFailed_verdictOf_error (e : CheckError) :
    (Context.verdictOf (.error e)).isFailed = true := by
  cases e <;> rfl

theorem verdictOf_error_ne_passed (e : CheckError) :
    Context.verdictOf (.error e) ≠ .passed := by
  intro hpassed
  have hfailed := isFailed_verdictOf_error e
  rw [hpassed] at hfailed
  cases hfailed

/-- A check as a scenario, where it does not matter what the check tells. -/
theorem does_passing {α : Type} {setting : Setting} {world : World} {check : Program CheckError α}
    {result : Except CheckError α} {events : Trace}
    (h : Does setting world check result events) :
    Does setting world (do let _ ← check; return .passed)
      (result.map fun _ => Verdict.passed) events := by
  cases result with
  | error e => exact h.bind_error
  | ok _ =>
    rw [← List.append_nil events]
    exact h.bind_ok (Program.does_pure _)

/-- Such a check passes exactly if it ends well. -/
theorem verdictOf_eq_passed_iff_exists {α : Type} (result : Except CheckError α) :
    Context.verdictOf (result.map fun _ => .passed) = .passed ↔ ∃ a, result = .ok a := by
  cases result with
  | ok a => exact iff_of_true rfl ⟨a, rfl⟩
  | error e => exact iff_of_false (verdictOf_error_ne_passed e) (by simp)

theorem verdictOf_eq_passed_iff (result : Except CheckError Unit) :
    Context.verdictOf (result.map fun _ => .passed) = .passed ↔ result = .ok () := by
  rw [verdictOf_eq_passed_iff_exists]
  exact ⟨fun ⟨_, h⟩ => h, fun h => ⟨(), h⟩⟩

/-- A check without a result of its own passes or fails; it is never skipped. -/
theorem isFailed_of_ne_passed {α : Type} (result : Except CheckError α)
    (h : Context.verdictOf (result.map fun _ => .passed) ≠ .passed) :
    (Context.verdictOf (result.map fun _ => .passed)).isFailed = true := by
  cases result with
  | ok _ => exact absurd rfl h
  | error e => exact isFailed_verdictOf_error e

namespace Context

variable (ctx : Context) (setting : Setting) (world : World)

/-- A scenario that is run in this world gets this verdict, and this is done on the way. -/
def Reports (scenario : Scenario) (verdict : Verdict) (events : Trace) : Prop :=
  ∃ report finish, (ctx.runScenario scenario).start setting world = (.ok report, finish) ∧
    report.name = scenario.name ∧ report.verdict = verdict ∧
    finish.trace = world.trace ++ events ++ [.ended verdict.label]

variable {ctx setting world} in
/-- What a scenario did is what its report tells. -/
theorem reports_of_does {scenario : Scenario} {result : Except CheckError Verdict} {events : Trace}
    (h : Does setting world (ctx.carryOut scenario) result events) :
    ctx.Reports setting world scenario (verdictOf result) events := by
  have hverdict : (ctx.entry setting scenario world).verdict = verdictOf result := by
    rw [entry, h]
  refine ⟨_, _, ctx.start_runScenario setting scenario world, rfl, hverdict, ?_⟩
  rw [afterScenario, World.after_trace, h.trace_eq, hverdict]

def newName : String := ctx.username setting world.trace.namesMade

def userAsked (name : String) : Event :=
  .called (.action ctx.application addUserAction (ctx.userAction name).params)

def userAnswer (name : String) : Except OrchestratorError ActionOutcome :=
  (setting.orchestrator world
    (.action ctx.application addUserAction (ctx.userAction name).params)).1

/-- What is done to make the next user. -/
def making : Trace :=
  [.named (setting.name world.trace.namesMade), ctx.userAsked (ctx.newName setting world)]

/-- What comes of making the next user. -/
def made : Except OrchestratorError ActionOutcome :=
  ctx.userAnswer setting (named setting world) (ctx.newName setting world)

end Context

/-- An answer hands over this password: the action completed, and its results have a password that
is a text and not empty. -/
def HandsOver (answer : Except OrchestratorError ActionOutcome) (password : String) : Prop :=
  ∃ outcome, answer = .ok outcome ∧ outcome.status = .completed ∧
    outcome.results.get? "password" = some (.string password) ∧ password ≠ ""

def handedOver (scenario : String) (answer : Except OrchestratorError ActionOutcome) :
    Except CheckError String := do
  let outcome ← answer.mapError .orchestrator
  passwordOf outcome scenario

/-- A result is told by name, and only if it is a text. -/
theorem ActionOutcome.result?_eq_some_iff {outcome : ActionOutcome} {name text : String} :
    outcome.result? name = some text ↔ outcome.results.get? name = some (.string text) := by
  rw [result?, Option.bind_eq_some_iff]
  constructor
  · rintro ⟨value, hvalue, htext⟩
    cases value with
    | string s =>
      cases htext
      exact hvalue
    | _ => cases htext
  · exact fun hvalue => ⟨_, hvalue, rfl⟩

/-- A password is taken only from a completed action that tells one with at least one character. -/
theorem passwordOf_eq_ok_iff {outcome : ActionOutcome} {scenario password : String} :
    passwordOf outcome scenario = .ok password ↔ outcome.status = .completed ∧
      outcome.results.get? "password" = some (.string password) ∧ password ≠ "" := by
  rw [passwordOf, ← ActionOutcome.result?_eq_some_iff, ActionStatus.isCompleted]
  by_cases hstatus : outcome.status = .completed
  · cases hresult : outcome.result? "password" with
    | none => simp [hstatus, Option.filter]
    | some found =>
      by_cases hempty : found = ""
      · simp [hstatus, hempty, Option.filter]
      · simp [hstatus, hempty, Option.filter]
        rintro rfl
        exact hempty
  · simp [hstatus]

/-- What the check takes for a password is what the orchestrator handed over. -/
theorem handedOver_eq_ok_iff {answer : Except OrchestratorError ActionOutcome}
    {scenario password : String} :
    handedOver scenario answer = .ok password ↔ HandsOver answer password := by
  cases answer with
  | error e => exact iff_of_false nofun (by rintro ⟨outcome, ⟨⟩, -⟩)
  | ok outcome =>
    have hpassword : handedOver scenario (.ok outcome) = passwordOf outcome scenario := rfl
    rw [hpassword, passwordOf_eq_ok_iff]
    refine ⟨fun h => ⟨outcome, rfl, h⟩, ?_⟩
    rintro ⟨_, ⟨⟩, h⟩
    exact h

theorem not_handsOver_of_error {answer : Except OrchestratorError ActionOutcome}
    {scenario : String} {e : CheckError} (h : handedOver scenario answer = .error e)
    (password : String) : ¬ HandsOver answer password := by
  intro hpassword
  rw [← handedOver_eq_ok_iff, h] at hpassword
  cases hpassword

namespace Context

variable {ctx : Context} {setting : Setting} {world : World} {β : Type} {scenario : String}
  {go : String → String → Program CheckError β} {later : Trace}

theorem does_newName (ctx : Context) (setting : Setting) (world : World) :
    Does setting world (randomUsername ctx.config.dashboard.usernamePrefix)
      (.ok (ctx.newName setting world) : Except CheckError String)
      [.named (setting.name world.trace.namesMade)] :=
  Program.does_freshName.bind_ok (Program.does_pure _)

/-- Making a user is one action, with the name and the role in it. -/
theorem does_createUser (ctx : Context) (setting : Setting) (world : World) (name : String) :
    Does setting world (ctx.createUser name)
      ((ctx.userAnswer setting world name).mapError .orchestrator) [ctx.userAsked name] := by
  rw [Does, createUser, start_createUser_eq]
  exact does_consult _

/-- Where no password is handed over, making the user is all that is done. -/
theorem does_withUser_error {e : CheckError}
    (h : handedOver scenario (ctx.made setting world) = .error e) :
    Does setting world (ctx.withUser scenario go) (.error e) (ctx.making setting world) := by
  have hmade := ctx.does_createUser setting (named setting world) (ctx.newName setting world)
  rw [← made] at hmade
  refine (ctx.does_newName setting world).bind_ok ?_
  cases hanswer : ctx.made setting world with
  | error fault =>
    rw [hanswer] at h hmade
    cases h
    exact hmade.bind_error
  | ok outcome =>
    rw [hanswer] at h hmade
    have hnone : passwordOf outcome scenario = .error e := h
    have hrest : Does setting (setting.replay world (ctx.making setting world))
        (Program.ofExcept (passwordOf outcome scenario) >>= go (ctx.newName setting world))
        (.error e) [] := by
      rw [hnone]
      exact (Program.does_ofExcept _).bind_error
    exact hmade.bind_ok hrest

/-- With the password that is handed over the rest is done. -/
theorem does_withUser_ok {password : String} {result : Except CheckError β}
    (h : HandsOver (ctx.made setting world) password)
    (hrest : Does setting (setting.replay world (ctx.making setting world))
      (go (ctx.newName setting world) password) result later) :
    Does setting world (ctx.withUser scenario go) result (ctx.making setting world ++ later) := by
  have hmade := ctx.does_createUser setting (named setting world) (ctx.newName setting world)
  obtain ⟨outcome, hanswer, houtcome⟩ := h
  have hpassword : passwordOf outcome scenario = .ok password := passwordOf_eq_ok_iff.mpr houtcome
  have hgo : Does setting (setting.replay world (ctx.making setting world))
      (Program.ofExcept (passwordOf outcome scenario) >>= go (ctx.newName setting world))
      result later := by
    rw [hpassword]
    exact (Program.does_ofExcept _).bind_ok hrest
  rw [← made, hanswer] at hmade
  exact (ctx.does_newName setting world).bind_ok (hmade.bind_ok hgo)

end Context

def Trace.actions (t : Trace) : List ActionCall :=
  t.calls.filterMap fun
    | .action application action params => some ⟨application, action, params⟩
    | _ => none

@[simp] theorem Trace.actions_append (earlier later : Trace) :
    Trace.actions (earlier ++ later) = earlier.actions ++ later.actions := by
  simp [Trace.actions, Trace.calls]

theorem Trace.actions_eq_nil {t : Trace} (h : ∀ event ∈ t, ∀ application action params,
    event ≠ .called (.action application action params)) : t.actions = [] := by
  rw [Trace.actions, List.filterMap_eq_nil_iff]
  intro call hcall
  obtain ⟨event, hevent, hcalled⟩ := List.mem_filterMap.mp hcall
  cases event with
  | called call' =>
    cases hcalled
    cases call with
    | action application action params => exact absurd rfl (h _ hevent application action params)
    | _ => rfl
  | _ => cases hcalled

namespace Context

variable (ctx : Context) (setting : Setting) (world : World)

theorem userAction_eq (name : String) : ctx.userAction name =
    ⟨ctx.application, "add-user",
      [("role", ctx.config.dashboard.userRole), ("username", name)]⟩ := by
  have horder : "role" < "username" := by decide
  simp [userAction, addUserAction, Dict.ofList, Dict.insert, horder]

theorem actions_userAsked (name : String) :
    Trace.actions [ctx.userAsked name] = [ctx.userAction name] := rfl

theorem actions_making :
    (ctx.making setting world).actions = [ctx.userAction (ctx.newName setting world)] := rfl

def madeTwice (name : String) (second : ActionOutcome) : CheckError :=
  .assertion "create_user"
    s!"duplicate add-user for '{name}' expected failed, got {second.status.text}"

def makeAgain (name : String) : Program CheckError Unit := do
  let second ← ctx.createUser name
  if second.status ≠ .failed then throw (madeTwice name second)

/-- What comes of making the next user a second time. -/
def madeAgain : Except OrchestratorError ActionOutcome :=
  ctx.userAnswer setting (setting.replay world (ctx.making setting world))
    (ctx.newName setting world)

theorem checkCreateUser_again :
    ctx.checkCreateUser = ctx.withUser "create_user" fun name _ => ctx.makeAgain name := rfl

/-- Making a user again does one thing, and is as expected only if the action failed. -/
theorem does_makeAgain (name : String) :
    ∃ result, Does setting world (ctx.makeAgain name) result [ctx.userAsked name] ∧
      (result = .ok () ↔
        ∃ outcome, ctx.userAnswer setting world name = .ok outcome ∧ outcome.status = .failed) := by
  have hmade := ctx.does_createUser setting world name
  cases hanswer : ctx.userAnswer setting world name with
  | error e =>
    rw [hanswer] at hmade
    exact ⟨_, hmade.bind_error, by simp⟩
  | ok second =>
    rw [hanswer] at hmade
    by_cases hstatus : second.status = .failed
    · refine ⟨.ok (), hmade.bind_ok ?_, by simpa using hstatus⟩
      rw [if_neg (not_not_intro hstatus)]
      exact Program.does_pure _
    · refine ⟨.error (madeTwice name second), hmade.bind_ok ?_, by simpa using hstatus⟩
      rw [if_pos hstatus]
      exact Program.does_throw _

/-- The user is made, and made again exactly if that hands over a password. -/
theorem does_checkCreateUser :
    ∃ result events, Does setting world ctx.checkCreateUser result events ∧
      ((∀ password, ¬ HandsOver (ctx.made setting world) password) →
        events = ctx.making setting world ∧ result ≠ .ok ()) ∧
      ∀ password, HandsOver (ctx.made setting world) password →
        events = ctx.making setting world ++ [ctx.userAsked (ctx.newName setting world)] ∧
        (result = .ok () ↔ ∃ outcome, ctx.madeAgain setting world = .ok outcome ∧
          outcome.status = .failed) := by
  rw [checkCreateUser_again]
  cases hhanded : handedOver "create_user" (ctx.made setting world) with
  | error e =>
    exact ⟨_, _, does_withUser_error hhanded, fun _ => ⟨rfl, nofun⟩,
      fun password hpassword => absurd hpassword (not_handsOver_of_error hhanded password)⟩
  | ok password =>
    have hpassword := handedOver_eq_ok_iff.mp hhanded
    obtain ⟨result, hagain, hresult⟩ := ctx.does_makeAgain setting
      (setting.replay world (ctx.making setting world)) (ctx.newName setting world)
    exact ⟨result, _, does_withUser_ok hpassword hagain,
      fun hnone => absurd hpassword (hnone password), fun _ _ => ⟨rfl, hresult⟩⟩

/-- The scenario asks for a user once, and for the same user once more exactly if the first answer
hands over a password. It passes exactly if then the second answer is that this failed. In all other
cases it fails. -/
theorem createUser_exact :
    let action : ActionCall := ⟨ctx.application, "add-user",
      [("role", ctx.config.dashboard.userRole), ("username", ctx.newName setting world)]⟩
    ∃ verdict events, ctx.Reports setting world .createUser verdict events ∧
      ((∀ password, ¬ HandsOver (ctx.made setting world) password) →
        events.actions = [action]) ∧
      ((∃ password, HandsOver (ctx.made setting world) password) →
        events.actions = [action, action]) ∧
      events.actions.length ≤ 2 ∧
      (verdict = .passed ↔ (∃ password, HandsOver (ctx.made setting world) password) ∧
        ∃ outcome, ctx.madeAgain setting world = .ok outcome ∧ outcome.status = .failed) ∧
      (verdict ≠ .passed → verdict.isFailed = true) := by
  intro action
  have haction : ctx.userAction (ctx.newName setting world) = action := ctx.userAction_eq _
  obtain ⟨result, events, hdoes, hnone, hsome⟩ := ctx.does_checkCreateUser setting world
  have hcarry : Does setting world (ctx.carryOut .createUser) (result.map fun _ => .passed)
      events := does_passing hdoes
  refine ⟨_, events, reports_of_does hcarry, ?_⟩
  rw [verdictOf_eq_passed_iff]
  -- the second action is asked for only if the first one handed a password over
  by_cases hhanded : ∃ password, HandsOver (ctx.made setting world) password
  · obtain ⟨password, hpassword⟩ := hhanded
    obtain ⟨rfl, hresult⟩ := hsome password hpassword
    have htwo : Trace.actions (ctx.making setting world ++
        [ctx.userAsked (ctx.newName setting world)]) = [action, action] := by
      rw [Trace.actions_append, actions_making, actions_userAsked, haction]
      rfl
    refine ⟨fun hnot => absurd hpassword (hnot password), fun _ => htwo, by rw [htwo]; simp, ?_,
      isFailed_of_ne_passed result⟩
    rw [hresult]
    exact ⟨fun h => ⟨⟨password, hpassword⟩, h⟩, And.right⟩
  · obtain ⟨rfl, hresult⟩ := hnone fun password hpassword => hhanded ⟨password, hpassword⟩
    have hone : Trace.actions (ctx.making setting world) = [action] := by
      rw [actions_making, haction]
    refine ⟨fun _ => hone, fun hsome => absurd hsome hhanded, by rw [hone]; simp, ?_,
      isFailed_of_ne_passed result⟩
    exact iff_of_false hresult fun hpassed => hhanded hpassed.1

end Context

end DashboardCheck
