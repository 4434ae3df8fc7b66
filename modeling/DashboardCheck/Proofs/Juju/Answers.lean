import DashboardCheck.Juju.Host
import DashboardCheck.Proofs.Outcome.Status

/-!
# Answers and what the tool printed

A run of the tool gives two signals, its exit code and the report that it prints. For actions and
commands the report decides whenever it can be read; only without one does the code count, and then
for an action also what the error output says. The main statement holds for all bytes and all codes.
-/
namespace DashboardCheck

open Json

/-- The first entry of what was printed: the first member of an object with its name, or the first
item of a list. -/
inductive Report.FirstEntry (stdout : String) : String → Value → Prop where
  | member {key : String} {entry : Value} {more : List (String × Value)} :
      Json.parse stdout = .ok (.object ((key, entry) :: more)) → FirstEntry stdout key entry
  | item {entry : Value} {more : List Value} :
      Json.parse stdout = .ok (.array (entry :: more)) → FirstEntry stdout "" entry

/-- The first entry names a status. -/
def Report.TellsStatus (stdout : String) (entry : Value) (status : String) : Prop :=
  (∃ key, FirstEntry stdout key entry) ∧ entry.get? "status" = some (.string status)

/-- A value writes an exit code of 32 bits: it is the number, or a text with the number between
blanks. -/
inductive Report.WritesCode : Value → Int → Prop where
  | number {n : Int} : CommandOutcome.minCode ≤ n → n ≤ CommandOutcome.maxCode →
      WritesCode (.integer n) n
  | text {s : String} {n : Int} :
      Number.integer? CommandOutcome.minCode CommandOutcome.maxCode (Text.trim s).toList = some n →
      WritesCode (.string s) n

/-- The first entry carries an exit code, among its results or beside the unit. -/
def Report.TellsCode (stdout : String) (entry : Value) (code : Int) : Prop :=
  (∃ key, FirstEntry stdout key entry) ∧
    ∃ value, firstOf ((entry.get? "results").getD entry) ["return-code", "Code", "code"] =
      some value ∧ WritesCode value code

namespace Report

variable {stdout : String}

/-- What a report tells first is the first member of the object that it writes. -/
theorem firstEntry_iff {key : String} {entry : Value} :
    FirstEntry stdout key entry ↔
      ∃ value, Json.parse stdout = .ok value ∧ firstMember? value = some (key, entry) := by
  constructor
  · intro h
    cases h with
    | member hparse => exact ⟨_, hparse, rfl⟩
    | item hparse => exact ⟨_, hparse, rfl⟩
  · rintro ⟨value, hparse, hfirst⟩
    cases value with
    | object members =>
      cases members with
      | nil => simp [firstMember?] at hfirst
      | cons head more =>
        obtain rfl : head = (key, entry) := by simpa [firstMember?] using hfirst
        exact .member hparse
    | array items =>
      cases items with
      | nil => simp [firstMember?] at hfirst
      | cons item more =>
        obtain ⟨rfl, rfl⟩ : "" = key ∧ item = entry := by simpa [firstMember?] using hfirst
        exact .item hparse
    | _ => simp [firstMember?] at hfirst

theorem exitCode?_eq_some_iff {value : Value} {n : Int} :
    exitCode? value = some n ↔ WritesCode value n := by
  constructor
  · intro h
    cases value with
    | integer k =>
      by_cases hrange : (CommandOutcome.minCode ≤ k && k ≤ CommandOutcome.maxCode) = true
      · obtain rfl : k = n := by simpa [exitCode?, hrange] using h
        obtain ⟨hlow, hhigh⟩ : CommandOutcome.minCode ≤ k ∧ k ≤ CommandOutcome.maxCode := by
          simpa using hrange
        exact .number hlow hhigh
      · simp [exitCode?, hrange] at h
    | string s => exact .text h
    | _ => simp [exitCode?] at h
  · intro h
    cases h with
    | number hlow hhigh => simp [exitCode?, hlow, hhigh]
    | text h => exact h

theorem text?_bind_eq_some {value : Option Value} {s : String} :
    value.bind Value.text? = some s ↔ value = some (.string s) := by
  rcases value with _ | value
  · simp
  · cases value <;> simp [Value.text?]

theorem parseOutput_ok {command : String} {value : Value} (h : Json.parse stdout = .ok value) :
    parseOutput command stdout = .ok value := by
  rw [parseOutput, h]
  rfl

/-- Output that is no JSON is told with the command that printed it. -/
theorem parseOutput_error (command : String) {failure : Document.Failure}
    (h : Json.parse stdout = .error failure) :
    ∃ reason, parseOutput command stdout = .error (.output command reason) := by
  refine ⟨Json.describe stdout failure, ?_⟩
  rw [parseOutput, h]
  rfl

/-- A report that tells a status is read with that status and with its results. -/
theorem parseAction_of_tellsStatus {entry : Value} {status : String}
    (h : TellsStatus stdout entry status) :
    ∃ outcome, parseAction stdout = .ok outcome ∧ outcome.status = .ofReport status ∧
      outcome.results = (entry.get? "results").getD .null := by
  obtain ⟨⟨key, hentry⟩, hstatus⟩ := h
  obtain ⟨value, hparse, hfirst⟩ := firstEntry_iff.mp hentry
  have htext : (entry.get? "status").bind Value.text? = some status :=
    text?_bind_eq_some.mpr hstatus
  have hread : parseAction stdout = .ok ⟨unitOf key entry, .ofReport status,
      (entry.get? "results").getD .null, (nonEmptyText? (entry.get? "message")).or
        (nonEmptyText? (firstOf ((entry.get? "results").getD .null) ["Stderr", "stderr"]))⟩ := by
    simp only [parseAction, parseOutput_ok hparse, bind, Except.bind, hfirst, htext]
    rfl
  exact ⟨_, hread, by simp only, by simp only⟩

theorem parseAction_of_not_tellsStatus
    (h : ¬ ∃ entry status, TellsStatus stdout entry status) :
    ∃ reason, parseAction stdout = .error (.output "juju run" reason) := by
  cases hparse : Json.parse stdout with
  | error failure =>
    obtain ⟨reason, hreason⟩ := parseOutput_error "juju run" hparse
    refine ⟨reason, ?_⟩
    simp only [parseAction, hreason, bind, Except.bind]
  | ok value =>
    simp only [parseAction, parseOutput_ok hparse, bind, Except.bind]
    cases hfirst : firstMember? value with
    | none => exact ⟨_, rfl⟩
    | some first =>
      obtain ⟨key, entry⟩ := first
      cases hstatus : (entry.get? "status").bind Value.text? with
      | none =>
        simp only [hstatus]
        exact ⟨_, rfl⟩
      | some status =>
        have hentry : FirstEntry stdout key entry := firstEntry_iff.mpr ⟨value, hparse, hfirst⟩
        exact absurd ⟨entry, status, ⟨key, hentry⟩, text?_bind_eq_some.mp hstatus⟩ h

theorem parseExec_of_tellsCode {entry : Value} {code : Int} (h : TellsCode stdout entry code) :
    ∃ outcome, parseExec stdout = .ok outcome ∧ outcome.code = code := by
  obtain ⟨⟨key, hentry⟩, written, hwritten, hcode⟩ := h
  obtain ⟨value, hparse, hfirst⟩ := firstEntry_iff.mp hentry
  have hread : (firstOf ((entry.get? "results").getD entry)
      ["return-code", "Code", "code"]).bind exitCode? = some code := by
    rw [hwritten]
    exact exitCode?_eq_some_iff.mpr hcode
  simp only [parseExec, parseOutput_ok hparse, bind, Except.bind, hfirst, hread]
  exact ⟨_, rfl, rfl⟩

theorem parseExec_of_not_tellsCode (h : ¬ ∃ entry code, TellsCode stdout entry code) :
    ∃ reason, parseExec stdout = .error (.output "juju exec" reason) := by
  cases hparse : Json.parse stdout with
  | error failure =>
    obtain ⟨reason, hreason⟩ := parseOutput_error "juju exec" hparse
    refine ⟨reason, ?_⟩
    simp only [parseExec, hreason, bind, Except.bind]
  | ok value =>
    simp only [parseExec, parseOutput_ok hparse, bind, Except.bind]
    cases hfirst : firstMember? value with
    | none => exact ⟨_, rfl⟩
    | some first =>
      obtain ⟨key, entry⟩ := first
      cases hread : (firstOf ((entry.get? "results").getD entry)
          ["return-code", "Code", "code"]).bind exitCode? with
      | none =>
        simp only [hread]
        exact ⟨_, rfl⟩
      | some code =>
        have hentry : FirstEntry stdout key entry := firstEntry_iff.mpr ⟨value, hparse, hfirst⟩
        obtain ⟨written, hwritten, hcode⟩ := Option.bind_eq_some_iff.mp hread
        exact absurd ⟨entry, code, ⟨key, hentry⟩, written, hwritten,
          exitCode?_eq_some_iff.mp hcode⟩ h

end Report

namespace Juju

open Text

def SaysActionFailed (stderr : String) : Prop :=
  occursIn "action".toList (lower stderr).toList = true ∧
    occursIn "failed".toList (lower stderr).toList = true

/-- A complaint about the action stands for a failed action, without results. -/
theorem actionFailure?_eq {stderr : String} (unit : String) (h : SaysActionFailed stderr) :
    Report.actionFailure? stderr unit = some ⟨unit, .failed, .null, some (trim stderr)⟩ := by
  simp only [Report.actionFailure?, h.1, h.2, Bool.and_self, if_true]

theorem actionFailure?_eq_none {stderr : String} (unit : String) (h : ¬ SaysActionFailed stderr) :
    Report.actionFailure? stderr unit = none := by
  have hnot : (occursIn "action".toList (lower stderr).toList &&
      occursIn "failed".toList (lower stderr).toList) = false := by
    simpa [SaysActionFailed] using h
  simp only [Report.actionFailure?, hnot]
  rfl

/-- How the answer to an action comes from the code and the output of a run. -/
structure ActionAnswered (application action : String) (code : Int) (stdout stderr : String)
    (answer : Except OrchestratorError ActionOutcome) : Prop where
  /-- An action is said to be completed only if a report says so, and then with its results. -/
  completed : ∀ outcome, answer = .ok outcome → outcome.status = .completed →
    ∃ entry status, Report.TellsStatus stdout entry status ∧ lower (trim status) = "completed" ∧
      outcome.results = (entry.get? "results").getD .null
  /-- A report is the answer, whatever the code is. -/
  reported : ∀ entry status, Report.TellsStatus stdout entry status →
    ∃ outcome, answer = .ok outcome ∧ outcome.status = .ofReport status ∧
      outcome.results = (entry.get? "results").getD .null
  /-- Without a report, code zero is an error of its own. -/
  unreadable : (¬ ∃ entry status, Report.TellsStatus stdout entry status) →
    ((∃ command reason, answer = .error (.output command reason)) ↔ code = 0)
  /-- Without a report and with another code, the error output may say that the action failed. -/
  failed : (¬ ∃ entry status, Report.TellsStatus stdout entry status) →
    (answer = .ok ⟨leader application, .failed, .null, some (trim stderr)⟩ ↔
      code ≠ 0 ∧ SaysActionFailed stderr)
  /-- Otherwise it was the tool that failed. -/
  broken : (¬ ∃ entry status, Report.TellsStatus stdout entry status) →
    (answer = .error (.commandFailed s!"juju run {leader application} {action}" code
      (trim stderr)) ↔ code ≠ 0 ∧ ¬ SaysActionFailed stderr)

/-- How the answer to a command comes from the code and the output of a run. -/
structure CommandAnswered (command : String) (code : Int) (stdout stderr : String)
    (answer : Except OrchestratorError CommandOutcome) : Prop where
  /-- A command is said to have ended well only if a report carries code zero. -/
  succeeded : ∀ outcome, answer = .ok outcome → outcome.code = 0 →
    ∃ entry, Report.TellsCode stdout entry 0
  /-- The code of a report is that of the answer, whatever the code of the tool is. -/
  reported : ∀ entry told, Report.TellsCode stdout entry told →
    ∃ outcome, answer = .ok outcome ∧ outcome.code = told
  /-- Without a report, code zero is an error of its own. -/
  unreadable : (∃ command reason, answer = .error (.output command reason)) ↔
    (¬ ∃ entry told, Report.TellsCode stdout entry told) ∧ code = 0
  /-- Without a report and with another code, the tool failed with that code. -/
  broken : (∃ command code stderr, answer = .error (.commandFailed command code stderr)) ↔
    (¬ ∃ entry told, Report.TellsCode stdout entry told) ∧ code ≠ 0
  /-- The error tells the code of the tool. -/
  code_told : ∀ text told said, answer = .error (.commandFailed text told said) →
    text = "juju exec " ++ command ∧ told = code ∧ said = trim stderr

section Action

variable (application action : String) {o : Output}

/-- A report on an action is believed whatever the exit code says. -/
theorem actionAnswer_told {entry : Value} {status : String}
    (h : Report.TellsStatus o.stdout entry status) :
    ∃ outcome, actionAnswer application action o = .ok outcome ∧
      outcome.status = .ofReport status ∧ outcome.results = (entry.get? "results").getD .null := by
  obtain ⟨outcome, hread, hstatus, hresults⟩ := Report.parseAction_of_tellsStatus h
  refine ⟨outcome, ?_, hstatus, hresults⟩
  rw [actionAnswer, hread]

/-- Without a report there are three ways. -/
theorem actionAnswer_untold (h : ¬ ∃ entry status, Report.TellsStatus o.stdout entry status) :
    (o.code = 0 ∧ ∃ reason,
      actionAnswer application action o = .error (.output "juju run" reason)) ∨
    (o.code ≠ 0 ∧ SaysActionFailed o.stderr ∧ actionAnswer application action o =
      .ok ⟨leader application, .failed, .null, some (trim o.stderr)⟩) ∨
    (o.code ≠ 0 ∧ ¬ SaysActionFailed o.stderr ∧ actionAnswer application action o =
      .error (.commandFailed s!"juju run {leader application} {action}" o.code
        (trim o.stderr))) := by
  obtain ⟨reason, hread⟩ := Report.parseAction_of_not_tellsStatus h
  by_cases hcode : o.code = 0
  · refine .inl ⟨hcode, reason, ?_⟩
    simp only [actionAnswer, hread, hcode, if_true]
  · right
    by_cases hsays : SaysActionFailed o.stderr
    · refine .inl ⟨hcode, hsays, ?_⟩
      simp only [actionAnswer, hread, hcode, if_false, actionFailure?_eq _ hsays]
    · refine .inr ⟨hcode, hsays, ?_⟩
      simp only [actionAnswer, hread, hcode, if_false, actionFailure?_eq_none _ hsays]
      rfl

theorem actionAnswered (o : Output) :
    ActionAnswered application action o.code o.stdout o.stderr
      (actionAnswer application action o) where
  completed := by
    intro outcome hanswer hcompleted
    by_cases htold : ∃ entry status, Report.TellsStatus o.stdout entry status
    · obtain ⟨entry, status, htells⟩ := htold
      obtain ⟨outcome', hanswer', hstatus, hresults⟩ :=
        actionAnswer_told application action htells
      rw [hanswer] at hanswer'
      cases hanswer'
      rw [hcompleted] at hstatus
      exact ⟨entry, status, htells, (ActionStatus.ofReport_eq_completed_iff status).mp hstatus.symm,
        hresults⟩
    · rcases actionAnswer_untold application action htold with
        ⟨-, reason, hother⟩ | ⟨-, -, hother⟩ | ⟨-, -, hother⟩
      · rw [hanswer] at hother
        cases hother
      · rw [hanswer] at hother
        cases hother
        cases hcompleted
      · rw [hanswer] at hother
        cases hother
  reported := fun _ _ htells => actionAnswer_told application action htells
  unreadable := by
    intro htold
    rcases actionAnswer_untold application action htold with
      ⟨hcode, reason, hanswer⟩ | ⟨hcode, hsays, hanswer⟩ | ⟨hcode, hsays, hanswer⟩
    · simp [hanswer, hcode]
    · simp [hanswer, hcode]
    · simp [hanswer, hcode]
  failed := by
    intro htold
    rcases actionAnswer_untold application action htold with
      ⟨hcode, reason, hanswer⟩ | ⟨hcode, hsays, hanswer⟩ | ⟨hcode, hsays, hanswer⟩
    · simp [hanswer, hcode]
    · simp [hanswer, hcode, hsays]
    · simp [hanswer, hcode, hsays]
  broken := by
    intro htold
    rcases actionAnswer_untold application action htold with
      ⟨hcode, reason, hanswer⟩ | ⟨hcode, hsays, hanswer⟩ | ⟨hcode, hsays, hanswer⟩
    · simp [hanswer, hcode]
    · simp [hanswer, hcode, hsays]
    · simp [hanswer, hcode, hsays]

end Action

section Command

variable (command : String) {o : Output}

/-- A report on a command is believed with the code that it tells. -/
theorem commandAnswer_told {entry : Value} {code : Int} (h : Report.TellsCode o.stdout entry code) :
    ∃ outcome, commandAnswer command o = .ok outcome ∧ outcome.code = code := by
  obtain ⟨outcome, hread, hcode⟩ := Report.parseExec_of_tellsCode h
  refine ⟨outcome, ?_, hcode⟩
  rw [commandAnswer, hread]

/-- Without a report there are two ways. -/
theorem commandAnswer_untold (h : ¬ ∃ entry code, Report.TellsCode o.stdout entry code) :
    (o.code = 0 ∧ ∃ reason, commandAnswer command o = .error (.output "juju exec" reason)) ∨
    (o.code ≠ 0 ∧ commandAnswer command o =
      .error (.commandFailed ("juju exec " ++ command) o.code (trim o.stderr))) := by
  obtain ⟨reason, hread⟩ := Report.parseExec_of_not_tellsCode h
  by_cases hcode : o.code = 0
  · refine .inl ⟨hcode, reason, ?_⟩
    simp only [commandAnswer, hread, hcode, if_true]
  · refine .inr ⟨hcode, ?_⟩
    simp only [commandAnswer, hread, hcode, if_false]
    rfl

theorem commandAnswered (o : Output) :
    CommandAnswered command o.code o.stdout o.stderr (commandAnswer command o) := by
  have hreported : ∀ entry told, Report.TellsCode o.stdout entry told →
      ∃ outcome, commandAnswer command o = .ok outcome ∧ outcome.code = told :=
    fun _ _ htells => commandAnswer_told command htells
  by_cases htold : ∃ entry told, Report.TellsCode o.stdout entry told
  · have ⟨entry, told, htells⟩ := htold
    obtain ⟨outcome, hanswer, hcode⟩ := commandAnswer_told command htells
    refine ⟨?_, hreported, ?_, ?_, ?_⟩
    · intro outcome' hanswer' hzero
      rw [hanswer] at hanswer'
      cases hanswer'
      obtain rfl : told = 0 := hcode.symm.trans hzero
      exact ⟨entry, htells⟩
    · simp [hanswer, htold]
    · simp [hanswer, htold]
    · simp [hanswer]
  · rcases commandAnswer_untold command htold with ⟨hcode, reason, hanswer⟩ | ⟨hcode, hanswer⟩
    · refine ⟨?_, hreported, ?_, ?_, ?_⟩
      · simp [hanswer]
      · simp [hanswer, htold, hcode]
      · simp [hanswer, hcode]
      · simp [hanswer]
    · refine ⟨?_, hreported, ?_, ?_, ?_⟩
      · simp [hanswer]
      · simp [hanswer, hcode]
      · simp [hanswer, htold, hcode]
      · rintro text told said htext
        rw [hanswer] at htext
        cases htext
        exact ⟨rfl, rfl, rfl⟩

end Command

/-- A call that needs a run is answered from one run of the tool. -/
theorem Client.orchestrator_run {client : Client} {host : Host} {world : World} {call : Call}
    (h : needsRun call = true) :
    client.orchestrator host world call =
      (client.interpret (host world client.binary (client.arguments (invocation call))).1 call,
        (host world client.binary (client.arguments (invocation call))).2) := by
  cases call with
  | configure application settings =>
    cases settings with
    | nil => simp [needsRun] at h
    | cons head tail => rfl
  | _ => rfl

theorem eq_configure_nil {call : Call} (h : needsRun call = false) :
    ∃ application, call = .configure application [] := by
  cases call with
  | configure application settings =>
    cases settings with
    | nil => exact ⟨application, rfl⟩
    | cons head tail => simp [needsRun] at h
  | _ => simp [needsRun] at h

/-- However a run of the tool ends by itself, the answers to actions and to commands are those that
its report tells, and only without one those that its code and its error output do. A run that was
killed counts as one with code -1. -/
theorem Client.answers_as_reported (client : Client) (code : Option Int) (stdout stderr : Bytes)
    (disk : Disk) (world : World) (application action command : String) (params : Dict String) :
    let host : Host := fun _ _ _ => (.finished code stdout stderr, disk)
    ActionAnswered application action (code.getD (-1)) (decodeLossy stdout) (decodeLossy stderr)
        (client.orchestrator host world (.action application action params)).1 ∧
      CommandAnswered command (code.getD (-1)) (decodeLossy stdout) (decodeLossy stderr)
        (client.orchestrator host world (.command application command)).1 := by
  intro host
  have haction : (client.orchestrator host world (.action application action params)).1 =
      actionAnswer application action
        ⟨code.getD (-1), decodeLossy stdout, decodeLossy stderr⟩ := rfl
  have hcommand : (client.orchestrator host world (.command application command)).1 =
      commandAnswer command ⟨code.getD (-1), decodeLossy stdout, decodeLossy stderr⟩ := rfl
  rw [haction, hcommand]
  generalize code.getD (-1) = code, decodeLossy stdout = stdout, decodeLossy stderr = stderr
  exact ⟨actionAnswered application action ⟨code, stdout, stderr⟩,
    commandAnswered command ⟨code, stdout, stderr⟩⟩

end Juju

end DashboardCheck
