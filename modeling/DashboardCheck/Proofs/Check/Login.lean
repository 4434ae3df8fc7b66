import DashboardCheck.Proofs.Check.Creation
import DashboardCheck.Proofs.Check.Endpoint
import DashboardCheck.Proofs.Http.Delivery
import Mathlib.Data.List.TakeWhile

/-!
# Logging in as a new user

A user is made only where an active unit was found, and somebody logs in only with a password that
was handed over. What is shown to log in is then that user and that password, at the address that
was found.
-/
namespace DashboardCheck

open Program (Does)

/-- A text without the slashes at its end. -/
def IsStripped (text stripped : String) : Prop :=
  stripped.toList.getLast? ≠ some '/' ∧
    ∃ n, text.toList = stripped.toList ++ List.replicate n '/'

theorem isStripped_withoutSlashes (text : String) : IsStripped text (withoutSlashes text) := by
  let isSlash (c : Char) : Bool := c == '/'
  have hchars : (withoutSlashes text).toList = (text.toList.reverse.dropWhile isSlash).reverse :=
    String.toList_ofList
  have hslashes : ∀ c ∈ (text.toList.reverse.takeWhile isSlash).reverse, c = '/' := by
    intro c hc
    simpa [isSlash] using List.mem_takeWhile_imp (List.mem_reverse.mp hc)
  refine ⟨fun hlast => ?_, (text.toList.reverse.takeWhile isSlash).reverse.length, ?_⟩
  · rw [hchars, List.getLast?_reverse] at hlast
    exact Bool.false_ne_true ((Text.dropWhile_head hlast).symm.trans (beq_self_eq_true '/'))
  · rw [hchars, ← List.eq_replicate_of_mem hslashes, ← List.reverse_append,
      List.takeWhile_append_dropWhile, List.reverse_reverse]

theorem authUrl_eq (url : String) : authUrl url = withoutSlashes url ++ "/api/auth" := by
  rw [authUrl, authPath, String.append_assoc]
  rfl

def Event.IsPost : Event → Prop
  | .tried method => method = .post
  | .sent request => request.method = .post
  | _ => False

theorem Event.IsProbe.not_isPost {event : Event} (h : event.IsProbe) : ¬ event.IsPost := by
  intro hpost
  cases event with
  | tried method =>
    cases h
    cases hpost
  | sent request =>
    have hget : request.method = .get := h
    have hsame : request.method = .post := hpost
    rw [hget] at hsame
    cases hsame
  | _ => exact hpost

namespace Http.Client

/-- What is done to post this content at this address: attempts that begin with such a `POST`, if
they get as far, and send no other content with a `POST`. -/
structure Posts (client : Client) (address accept : String) (content : Content)
    (events : Trace) : Prop where
  attempts : ∃ (sent : Nat → List Request) (k : Nat), 1 ≤ k ∧
    events = client.allAttempts ⟨.post, true, accept, some content⟩ sent k ∧
    ∀ n request, (sent (n + 1)).head? = some request → ∃ found, target address = .ok found ∧
      request = ⟨.post, found, accept, some content⟩
  content : ∀ request, .sent request ∈ events → request.method = .post →
    request.content = some content

/-- Sending a body runs no action, whatever becomes of it. -/
theorem does_postJson (client : Client) (address : String) (body : Json.Value)
    (accept mediaType : String) (setting : Setting) (world : World) :
    ∃ posted events, Does setting world (client.postJson address body accept mediaType) posted
      events ∧ client.Posts address accept ⟨mediaType, body.compact⟩ events ∧
      Trace.actions events = [] := by
  let order := postOrder body accept mediaType
  obtain ⟨results, sent, k, hk, hsends, hdoes⟩ := client.does_send order address setting world
  have htakes : ∀ event ∈ client.allAttempts order sent k, order.Takes address event :=
    takes_allAttempts hsends hk
  refine ⟨_, _, hdoes, ⟨⟨sent, k, hk, rfl, fun n request hrequest => ?_⟩, ?_⟩, ?_⟩
  · have hfirst := (hsends n).first request hrequest
    rw [Order.request?] at hfirst
    split at hfirst
    · next found htarget =>
      cases hfirst
      exact ⟨found, htarget, rfl⟩
    · cases hfirst
  · intro request hrequest hpost
    have hcomes : order.Comes address request := htakes _ hrequest
    rcases hcomes.same_or_get with ⟨-, hcontent⟩ | hget
    · exact hcontent
    · rw [hget] at hpost
      cases hpost
  · refine Trace.actions_eq_nil ?_
    rintro event hevent application action params rfl
    exact htakes _ hevent

end Http.Client

namespace Context

variable (ctx : Context) {setting : Setting} {world : World}

def askToken (url name password : String) : Program CheckError Http.Arrival :=
  ctx.http.postJson (authUrl url) (credentials name password) apiMediaType "application/json"

def refused (url name : String) (status : Nat) : CheckError :=
  .assertion "access_dashboard"
    s!"login as '{name}' at {authUrl url} expected 201 Created, got {Http.statusText status}"

def logIn (url name password : String) : Program CheckError Unit := do
  let arrival ← ctx.askToken url name password
  if arrival.response.status ≠ 201 then throw (refused url name arrival.response.status)
  Program.log (loginLine name (authUrl url))

theorem accessDashboard_logIn (url : String) :
    ctx.accessDashboard url = ctx.withUser "access_dashboard" (ctx.logIn url) := rfl

/-- Logging in is sending the name and the password once; it succeeds with the status 201 only. -/
theorem does_logIn {url name password : String} {posted : Except CheckError Http.Arrival}
    {events : Trace} (h : Does setting world (ctx.askToken url name password) posted events) :
    ∃ result, Does setting world (ctx.logIn url name password) result events ∧
      (result = .ok () ↔ ∃ arrival, posted = .ok arrival ∧ arrival.response.status = 201) := by
  cases posted with
  | error e => exact ⟨_, h.bind_error, by simp⟩
  | ok arrival =>
    rw [← List.append_nil events]
    by_cases hstatus : arrival.response.status = 201
    · refine ⟨.ok (), h.bind_ok ?_, by simpa using hstatus⟩
      rw [if_neg (not_not_intro hstatus)]
      exact Program.does_logAll _
    · refine ⟨.error (refused url name arrival.response.status), h.bind_ok ?_,
        by simpa using hstatus⟩
      rw [if_pos hstatus]
      exact (Program.does_throw _).bind_error

/-- The user is made, and somebody logs in exactly if that hands over a password. -/
theorem does_accessDashboard (setting : Setting) (world : World) (url : String) :
    let name := ctx.newName setting world
    ∃ result events, Does setting world (ctx.accessDashboard url) result events ∧
      events.actions = [ctx.userAction name] ∧
      ((∀ password, ¬ HandsOver (ctx.made setting world) password) →
        events = ctx.making setting world ∧ result ≠ .ok ()) ∧
      ∀ password, HandsOver (ctx.made setting world) password → ∃ posted later,
        Does setting (setting.replay world (ctx.making setting world))
          (ctx.askToken url name password) posted later ∧
        ctx.http.Posts (authUrl url) apiMediaType
          ⟨"application/json", (credentials name password).compact⟩ later ∧
        events = ctx.making setting world ++ later ∧
        (result = .ok () ↔ ∃ arrival, posted = .ok arrival ∧ arrival.response.status = 201) := by
  intro name
  rw [accessDashboard_logIn]
  cases hhanded : handedOver "access_dashboard" (ctx.made setting world) with
  | error e =>
    exact ⟨_, _, does_withUser_error hhanded, rfl, fun _ => ⟨rfl, nofun⟩,
      fun password hpassword => absurd hpassword (not_handsOver_of_error hhanded password)⟩
  | ok password =>
    have hpassword := handedOver_eq_ok_iff.mp hhanded
    obtain ⟨posted, later, hdoes, hposts, hidle⟩ :=
      ctx.http.does_postJson (authUrl url) (credentials name password) apiMediaType
        "application/json" setting (setting.replay world (ctx.making setting world))
    obtain ⟨result, hlogin, hresult⟩ := ctx.does_logIn hdoes
    refine ⟨result, _, does_withUser_ok hpassword hlogin, ?_,
      fun hnone => absurd hpassword (hnone password), fun password' hpassword' => ?_⟩
    · rw [Trace.actions_append, actions_making, hidle]
      rfl
    · obtain rfl : password = password' := by
        rw [← handedOver_eq_ok_iff, hhanded] at hpassword'
        exact Except.ok.inj hpassword'
      exact ⟨posted, later, hdoes, hposts, rfl, hresult⟩

variable (setting world) in
/-- What logging in as a scenario does, and what it comes to. -/
structure LoginGate (verdict : Verdict) (events : Trace) : Prop where
  /-- An active unit is looked for, which changes and posts nothing. -/
  searches : ∃ found probing, Does setting world ctx.findActive found probing ∧
    ∀ event ∈ probing, event.IsProbe
  /-- A scenario that does not pass fails. -/
  fails : verdict ≠ .passed → verdict.isFailed = true
  /-- Without an active unit no user is made and nothing is posted. -/
  unfound : ∀ found probing, Does setting world ctx.findActive found probing →
    (∀ url, found ≠ .ok (some url)) →
    events.actions = [] ∧ (∀ event ∈ events, ¬ event.IsPost) ∧ verdict ≠ .passed
  /-- With an active unit one user is made. -/
  made : ∀ url probing, Does setting world ctx.findActive (.ok (some url)) probing →
    events.actions = [⟨ctx.application, "add-user", [("role", ctx.config.dashboard.userRole),
      ("username", ctx.newName setting (setting.replay world probing))]⟩]
  /-- Without a password nothing is posted. -/
  unposted : ∀ url probing, Does setting world ctx.findActive (.ok (some url)) probing →
    (∀ password, ¬ HandsOver (ctx.made setting (setting.replay world probing)) password) →
    (∀ event ∈ events, ¬ event.IsPost) ∧ verdict ≠ .passed
  /-- With a password, user and password are posted at the address that was found, and all is well
  exactly if the last answer to that has status 201. -/
  posted : ∀ url probing password, Does setting world ctx.findActive (.ok (some url)) probing →
    HandsOver (ctx.made setting (setting.replay world probing)) password →
    let here := setting.replay world probing
    let body := Json.Value.object
      [("username", .string (ctx.newName setting here)), ("password", .string password)]
    ∃ base answer later, IsStripped url base ∧
      events = probing ++ ctx.making setting here ++ later ∧
      (∀ event ∈ probing ++ ctx.making setting here, ¬ event.IsPost) ∧
      Does setting (setting.replay here (ctx.making setting here))
        (ctx.http.postJson (base ++ "/api/auth") body "application/vnd.ceph.api.v1.0"
          "application/json") answer later ∧
      ctx.http.Posts (base ++ "/api/auth") "application/vnd.ceph.api.v1.0"
        ⟨"application/json", body.compact⟩ later ∧
      (verdict = .passed ↔ ∃ arrival, answer = .ok arrival ∧ arrival.response.status = 201)

theorem making_not_isPost : ∀ event ∈ ctx.making setting world, ¬ event.IsPost := by
  simp [making, userAsked, Event.IsPost]

theorem actions_probing {probing : Trace} (h : ∀ event ∈ probing, event.IsProbe) :
    probing.actions = [] := by
  refine Trace.actions_eq_nil ?_
  rintro event hevent application action params rfl
  exact h _ hevent

/-- Without an active unit nothing is made and nothing is sent. -/
theorem loginGate_unfound {found : Except CheckError (Option String)} {probing : Trace}
    (hfound : Does setting world ctx.findActive found probing)
    (hnone : ∀ url, found ≠ .ok (some url)) (e : CheckError) :
    ctx.LoginGate setting world (verdictOf (.error e)) probing where
  searches := ⟨found, probing, hfound, ctx.within_findActive.of_does hfound⟩
  fails _ := isFailed_verdictOf_error e
  unfound _ _ _ _ := by
    have hprobe := ctx.within_findActive.of_does hfound
    exact ⟨actions_probing hprobe, fun event hevent => (hprobe event hevent).not_isPost,
      verdictOf_error_ne_passed e⟩
  made _ _ hother := absurd (hfound.unique hother).1 (hnone _)
  unposted _ _ hother := absurd (hfound.unique hother).1 (hnone _)
  posted _ _ _ hother := absurd (hfound.unique hother).1 (hnone _)

/-- With an active unit the check makes its user and logs in at that unit. -/
theorem loginGate_found {url : String} {probing : Trace}
    (hfound : Does setting world ctx.findActive (.ok (some url)) probing) :
    ∃ result events, Does setting (setting.replay world probing) (ctx.accessDashboard url) result
        events ∧
      ctx.LoginGate setting world (verdictOf (result.map fun _ => .passed))
        (probing ++ events) := by
  have hprobe := ctx.within_findActive.of_does hfound
  have hbefore : ∀ event ∈ probing ++ ctx.making setting (setting.replay world probing),
      ¬ event.IsPost := by
    intro event hevent
    rcases List.mem_append.mp hevent with hevent | hevent
    · exact (hprobe event hevent).not_isPost
    · exact ctx.making_not_isPost event hevent
  obtain ⟨result, events, hdoes, hactions, hnone, hsome⟩ :=
    ctx.does_accessDashboard setting (setting.replay world probing) url
  -- the search has one course, so whatever is said of another course of it is said of this one
  refine ⟨result, events, hdoes, ⟨_, _, hfound, hprobe⟩, isFailed_of_ne_passed result, ?_, ?_, ?_,
    ?_⟩
  · intro found probing' hfound' hother
    exact absurd (hfound'.unique hfound).1 (hother url)
  · intro url' probing' hfound'
    obtain ⟨-, rfl⟩ := hfound.unique hfound'
    rw [Trace.actions_append, actions_probing hprobe, hactions, userAction_eq]
    rfl
  · intro url' probing' hfound' hnothing
    obtain ⟨-, rfl⟩ := hfound.unique hfound'
    obtain ⟨rfl, hresult⟩ := hnone hnothing
    rw [Ne, verdictOf_eq_passed_iff]
    exact ⟨hbefore, hresult⟩
  · intro url' probing' password hfound' hpassword
    obtain ⟨hurl, rfl⟩ := hfound.unique hfound'
    obtain rfl : url = url' := by simpa using hurl
    obtain ⟨posted, later, hasked, hposts, rfl, hresult⟩ := hsome password hpassword
    rw [askToken, authUrl_eq] at hasked
    rw [authUrl_eq] at hposts
    rw [← verdictOf_eq_passed_iff] at hresult
    exact ⟨withoutSlashes url, posted, later, isStripped_withoutSlashes url,
      (List.append_assoc ..).symm, hbefore, hasked, hposts, hresult⟩

/-- The scenario makes a user only where there is an active unit, and one only. It posts nothing
before it has a password, and then the user and the password. It passes exactly if that is answered
with status 201, and fails otherwise. -/
theorem accessDashboard_gated (ctx : Context) (setting : Setting) (world : World) :
    ∃ verdict events, ctx.Reports setting world .accessDashboard verdict events ∧
      ctx.LoginGate setting world verdict events := by
  obtain ⟨found, probing, hfound, -⟩ := ctx.within_findActive setting world
  have hrequire := ctx.does_requireActive Scenario.accessDashboard.name hfound
  cases hend : ctx.endpoint Scenario.accessDashboard.name found with
  | error e =>
    rw [hend] at hrequire
    have hnone : ∀ url, found ≠ .ok (some url) := by
      rintro url rfl
      cases hend
    exact ⟨_, probing, reports_of_does hrequire.bind_error, ctx.loginGate_unfound hfound hnone e⟩
  | ok url =>
    rw [hend] at hrequire
    obtain rfl := ctx.endpoint_eq_ok_iff.mp hend
    obtain ⟨result, events, hdoes, hgate⟩ := ctx.loginGate_found hfound
    exact ⟨_, probing ++ events,
      reports_of_does (hrequire.bind_ok (does_passing hdoes)), hgate⟩

end Context

end DashboardCheck
