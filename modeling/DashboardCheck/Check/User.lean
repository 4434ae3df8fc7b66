import DashboardCheck.Check.Context

/-!
Users of the dashboard. A user is made by an action on the dashboard's leader, which answers with
the password; making the same user again has to fail.
-/
namespace DashboardCheck

def userTarget : String := "dashprobe_dashboard::users"

def addUserAction : String := "add-user"

/-- A username that was not used before. -/
def randomUsername {ε : Type} (start : String) : Program ε String := do
  return start ++ "-" ++ (← Program.freshName)

def createUser (application username role : String) : Program CheckError ActionOutcome := do
  let outcome : ActionOutcome ← consult (.action application addUserAction
    (Dict.ofList [("username", username), ("role", role)]))
  Program.log ⟨.info, userTarget, "add-user finished",
    [("username", .text username), ("role", .text role), ("unit", .text outcome.unit),
     ("status", .text outcome.status.text)]⟩
  return outcome

theorem start_createUser_eq (application username role : String) (setting : Setting)
    (world : World) :
    (createUser application username role).start setting world =
      (consult (.action application addUserAction
        (Dict.ofList [("username", username), ("role", role)]))).start setting world :=
  Program.start_bind_log_value setting world _ _

def passwordOf (outcome : ActionOutcome) (scenario : String) : Except CheckError String :=
  if !outcome.status.isCompleted then
    .error (.assertion scenario ("add-user expected completed, got " ++ outcome.line))
  else
    match (outcome.result? "password").filter fun password => !password.isEmpty with
    | some password => .ok password
    | none => .error (.assertion scenario "add-user completed without a password")

namespace Context

def createUser (ctx : Context) (username : String) : Program CheckError ActionOutcome :=
  DashboardCheck.createUser ctx.application username ctx.config.dashboard.userRole

def checkCreateUser (ctx : Context) : Program CheckError Unit := do
  let username ← randomUsername ctx.config.dashboard.usernamePrefix
  let first ← ctx.createUser username
  let _ ← Program.ofExcept (passwordOf first "create_user")
  let second ← ctx.createUser username
  if second.status ≠ .failed then
    throw (.assertion "create_user"
      s!"duplicate add-user for '{username}' expected failed, got {second.status.text}")

end Context

end DashboardCheck
