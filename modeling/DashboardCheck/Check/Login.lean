import DashboardCheck.Check.User

/-!
Logging in: a new user asks for a token with the password that came with it.
-/
namespace DashboardCheck

/-- The version of the interface that is asked for. -/
def apiMediaType : String := "application/vnd.ceph.api.v1.0"

/-- Where tokens are asked for, below the base address. -/
def authPath : String := "api/auth"

def withoutSlashes (s : String) : String :=
  String.ofList (s.toList.reverse.dropWhile (· == '/')).reverse

def authUrl (baseUrl : String) : String := withoutSlashes baseUrl ++ "/" ++ authPath

def credentials (username password : String) : Json.Value :=
  .object [("username", .string username), ("password", .string password)]

def loginLine (username url : String) : LogLine :=
  ⟨.info, "dashprobe_dashboard::login", "dashboard login succeeded",
    [("username", .text username), ("url", .text url)]⟩

namespace Context

/-- Makes a user and logs in as that user. -/
def accessDashboard (ctx : Context) (baseUrl : String) : Program CheckError Unit := do
  let username ← randomUsername ctx.config.dashboard.usernamePrefix
  let outcome ← ctx.createUser username
  let password ← Program.ofExcept (passwordOf outcome "access_dashboard")
  let url := authUrl baseUrl
  let arrival ← ctx.http.postJson url (credentials username password) apiMediaType
    "application/json"
  let status := arrival.response.status
  if status ≠ 201 then
    throw (.assertion "access_dashboard"
      s!"login as '{username}' at {url} expected 201 Created, got {Http.statusText status}")
  Program.log (loginLine username url)

end Context

end DashboardCheck
