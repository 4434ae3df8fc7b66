import DashboardCheck.Check.User
import DashboardCheck.Proofs.Juju.Arguments
import DashboardCheck.Proofs.Twins

/-!
# Reports that differ in a password

The orchestrator behind the tool, on two hosts on which the tool does the same, but for the password
that the report on a new user tells. The answers then differ in that password at most: neither the
message of an outcome nor the error of a call that fails can tell it.
-/
namespace DashboardCheck

open Text

namespace Report

open Json

/-- The report with another first entry, if it has one. -/
def changeFirst (f : Value → Value) : Value → Value
  | .object ((key, entry) :: rest) => .object ((key, f entry) :: rest)
  | .array (entry :: rest) => .array (f entry :: rest)
  | value => value

/-- The report on an action with another password in the results of its first entry, if they have
one. -/
def writePassword (password : String) : Value → Value :=
  changeFirst (.change "results" (ActionOutcome.writePassword password))

/-- A change to the first member is a change to what is told of it. -/
theorem firstMember?_changeFirst (f : Value → Value) (value : Value) :
    firstMember? (changeFirst f value) =
      (firstMember? value).map fun first => (first.1, f first.2) := by
  cases value with
  | array items => cases items <;> rfl
  | object members => cases members <;> rfl
  | _ => rfl

/-- A change under one name leaves what stands under others. -/
theorem firstOf_change {name : String} {names : List String} (f : Value → Value) (value : Value)
    (h : name ∉ names) : firstOf (value.change name f) names = firstOf value names := by
  induction names with
  | nil => rfl
  | cons other rest ih =>
    obtain ⟨hother, hrest⟩ : name ≠ other ∧ name ∉ rest := by simpa using h
    rw [firstOf, firstOf, List.findSome?_cons, List.findSome?_cons,
      value.get?_change_other f (Ne.symm hother), ← firstOf, ← firstOf, ih hrest]

theorem unitOf_change_results (key : String) (entry : Value) (f : Value → Value) :
    unitOf key (entry.change "results" f) = unitOf key entry := by
  rw [unitOf, unitOf, firstOf_change f entry (by decide)]

section Results

variable (results : Option Value)

/-- The password is not where a message is looked for among the results. -/
theorem firstOf_writePassword (password : String) :
    firstOf ((results.map (ActionOutcome.writePassword password)).getD .null)
        ["Stderr", "stderr"] =
      firstOf (results.getD .null) ["Stderr", "stderr"] := by
  cases results with
  | none => rfl
  | some results =>
    have hother : "password" ∉ ["Stderr", "stderr"] := by decide
    rw [Option.map_some, Option.getD_some, Option.getD_some, ActionOutcome.writePassword,
      firstOf_change _ results hother]

/-- Results with different passwords are the same but for these. -/
theorem sameBut_results {password password' : String} (hp : password ≠ "") (hp' : password' ≠ "") :
    Value.SameBut ActionOutcome.writePassword
      ((results.map (ActionOutcome.writePassword password)).getD .null)
      ((results.map (ActionOutcome.writePassword password')).getD .null) := by
  cases results with
  | none => exact .inl rfl
  | some results => exact .inr ⟨results, password, password', hp, hp', rfl, rfl⟩

end Results

/-- Reports that are the same but for a password tell of alike outcomes, or are refused in the same
words. -/
theorem parseAction_paired {stdout stdout' : String} {value value' : Value}
    (h : Json.parse stdout = .ok value) (h' : Json.parse stdout' = .ok value')
    (hbut : Value.SameBut writePassword value value') :
    Paired ActionOutcome.Alike (parseAction stdout) (parseAction stdout') := by
  rcases hbut with rfl | ⟨base, password, password', hp, hp', rfl, rfl⟩
  · refine .of_eq ActionOutcome.Alike.refl ?_
    rw [parseAction, parseAction, parseOutput_ok h, parseOutput_ok h']
  · simp only [parseAction, parseOutput_ok h, parseOutput_ok h', bind, Except.bind, writePassword,
      firstMember?_changeFirst]
    cases firstMember? base with
    | none => exact .error _
    | some first =>
      obtain ⟨key, entry⟩ := first
      have hother : ∀ {name : String} (f : Value → Value), name ≠ "results" →
          (entry.change "results" f).get? name = entry.get? name :=
        fun f hname => entry.get?_change_other f hname
      simp only [Option.map_some, unitOf_change_results, entry.get?_change_self,
        firstOf_writePassword, hother _ (show "status" ≠ "results" by decide),
        hother _ (show "message" ≠ "results" by decide)]
      cases (entry.get? "status").bind Value.text? with
      | none => exact .error _
      | some status => exact .ok ⟨rfl, rfl, sameBut_results _ hp hp', rfl⟩

end Report

def Call.IsAddUser : Call → Prop
  | .action _ name _ => name = addUserAction
  | _ => False

namespace Juju

/-- Two runs of the tool that end alike with reports that are the same but for a password. -/
inductive Run.SameReport : Run → Run → Prop where
  | finished {code : Option Int} {stdout stdout' stderr : Bytes} {value value' : Json.Value} :
      Json.parse (decodeLossy stdout) = .ok value →
      Json.parse (decodeLossy stdout') = .ok value' →
      value.SameBut Report.writePassword value' →
      SameReport (.finished code stdout stderr) (.finished code stdout' stderr)

/-- Two runs that are the same, or tell two passwords of a user that was made. -/
def RunsAlike (call : Call) (run run' : Run) : Prop :=
  run = run' ∨ call.IsAddUser ∧ run.SameReport run'

def Client.runOn (client : Client) (host : Host) (world : World) (call : Call) : Run × Disk :=
  host world client.binary (client.arguments (invocation call))

/-- Two hosts on which the tool of a client does the same in worlds where the same was done, but for
the passwords that it tells. -/
def Client.SameHosts (client : Client) (host host' : Host) : Prop :=
  ∀ {world world' : World} (call : Call), needsRun call = true → world.bare = world'.bare →
    RunsAlike call (client.runOn host world call).1 (client.runOn host' world' call).1 ∧
      (client.runOn host world call).2 = (client.runOn host' world' call).2

/-- Reports that differ in the password give outcomes that differ in it, and errors that do not. -/
theorem actionAnswer_paired {o o' : Output} {value value' : Json.Value}
    (application action : String) (h : Json.parse o.stdout = .ok value)
    (h' : Json.parse o'.stdout = .ok value') (hbut : value.SameBut Report.writePassword value')
    (hcode : o.code = o'.code) (hstderr : o.stderr = o'.stderr) :
    Paired ActionOutcome.Alike (actionAnswer application action o)
      (actionAnswer application action o') := by
  have hread := Report.parseAction_paired h h' hbut
  rw [actionAnswer, actionAnswer, ← hcode, ← hstderr]
  generalize Report.parseAction o.stdout = x at hread
  generalize Report.parseAction o'.stdout = y at hread
  cases hread with
  | ok halike => exact .ok halike
  | error e =>
    refine .of_eq ActionOutcome.Alike.refl ?_
    simp only [failure, hcode, hstderr]

variable {client : Client} {host host' : Host} {world world' : World} {call : Call}

theorem Client.interpret_paired {run run' : Run} (h : RunsAlike call run run') :
    Paired call.AnswersAlike (client.interpret run call) (client.interpret run' call) := by
  rcases h with rfl | ⟨hadd, hreport⟩
  · exact .of_eq (Call.AnswersAlike.refl call) rfl
  · cases call with
    | action application action params =>
      cases hreport with
      | finished hparse hparse' hbut =>
        exact actionAnswer_paired application action hparse hparse' hbut rfl rfl
    | _ => exact absurd hadd id

/-- Hosts that are the same but for passwords answer all calls alike, and leave the same disk. -/
theorem Client.orchestrator_paired (h : client.SameHosts host host')
    (hworld : world.bare = world'.bare) (call : Call) :
    Paired call.AnswersAlike (client.orchestrator host world call).1
        (client.orchestrator host' world' call).1 ∧
      (client.orchestrator host world call).2 = (client.orchestrator host' world' call).2 := by
  cases hneeds : needsRun call with
  | true =>
    obtain ⟨hrun, hdisk⟩ := h call hneeds hworld
    rw [orchestrator_run hneeds, orchestrator_run hneeds]
    exact ⟨interpret_paired hrun, hdisk⟩
  | false =>
    obtain ⟨application, rfl⟩ := eq_configure_nil hneeds
    have hdisk : world.disk = world'.disk := congrArg (fun bare => bare.disk) hworld
    exact ⟨.ok rfl, hdisk⟩

/-- A report that is read leaves no line, and reports that are the same but for a password are both
read or neither. -/
theorem fallbackLine_eq {o o' : Output} {value value' : Json.Value} (application action : String)
    (h : Json.parse o.stdout = .ok value) (h' : Json.parse o'.stdout = .ok value')
    (hbut : value.SameBut Report.writePassword value') (hcode : o.code = o'.code)
    (hstderr : o.stderr = o'.stderr) :
    fallbackLine application action o = fallbackLine application action o' := by
  have hread := Report.parseAction_paired h h' hbut
  rw [fallbackLine, fallbackLine, ← hcode, ← hstderr]
  generalize Report.parseAction o.stdout = x at hread
  generalize Report.parseAction o'.stdout = y at hread
  cases hread <;> rfl

theorem Client.runLines_eq {run run' : Run} (h : RunsAlike call run run') :
    client.runLines run call = client.runLines run' call := by
  rcases h with rfl | ⟨hadd, hreport⟩
  · rfl
  · cases call with
    | action application action params =>
      cases hreport with
      | finished hparse hparse' hbut =>
        exact congrArg (_ :: ·) (fallbackLine_eq application action hparse hparse' hbut rfl rfl)
    | _ => exact absurd hadd id

/-- What is logged about a call does not tell the password. -/
theorem Client.remarks_eq (h : client.SameHosts host host') (hworld : world.bare = world'.bare)
    (call : Call) : client.remarks host world call = client.remarks host' world' call := by
  rw [remarks, remarks]
  by_cases hneeds : needsRun call
  · rw [if_pos hneeds, if_pos hneeds]
    exact client.runLines_eq (h call hneeds hworld).1
  · rw [if_neg hneeds, if_neg hneeds]

/-- Settings with such hosts are alike. -/
theorem Client.setting_alike {setting setting' : Setting} (haround : setting.SameAround setting')
    (h : client.SameHosts host host') :
    Setting.Alike (client.inside host setting) (client.inside host' setting') where
  name := haround.name
  temp := haround.temp
  network := haround.network
  tempFault := haround.tempFault
  remarks := fun call hworld => client.remarks_eq h hworld call
  answer := fun call hworld => (client.orchestrator_paired h hworld call).1
  disk := fun call hworld => (client.orchestrator_paired h hworld call).2

end Juju

end DashboardCheck
