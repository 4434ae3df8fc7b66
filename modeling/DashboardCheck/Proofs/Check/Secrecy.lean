import DashboardCheck.Check.Suite
import DashboardCheck.Proofs.Twins

/-!
# What checks do with a password

No check tells a password to anyone but the server that it logs in at. Run side by side in settings
that are alike, every scenario ends with the same verdict, and the worlds stay alike.
-/
namespace DashboardCheck

open Program (Twins)

variable {ε : Type} {s s' : Setting}

namespace Http.Client

variable (client : Client)

/-- Requests that differ in what may differ are sent on alike: the answers are the same, so the
redirects are. -/
theorem exchange_twins (h : s.SameAround s') (follow : Bool) (left : Nat)
    {request request' : Request} (hrequest : Request.Alike s.network request request') :
    Twins s s' Eq (client.exchange follow left request : Program ε _)
      (client.exchange follow left request') := by
  induction left using Nat.strongRecOn generalizing request request' with
  | ind left ih =>
    rw [exchange.eq_def, exchange.eq_def]
    dsimp only
    rw [hrequest.url_eq]
    refine (Program.twins_deliver h client.limit hrequest).bind ?_
    rintro delivery _ ⟨rfl, there, hthere⟩
    cases delivery with
    | unconnected => exact Program.twins_pure rfl
    | unanswered => exact Program.twins_pure rfl
    | answered response =>
      dsimp only
      -- the answer is the same for both, so it leads both on or neither
      rcases hrequest.next? follow hthere with ⟨hend, hend'⟩ | ⟨next, next', hgo, hgo', hnext⟩
      · rw [hend, hend']
        exact Program.twins_pure rfl
      · rw [hgo, hgo']
        cases left with
        | zero =>
          dsimp only
          rw [hnext.url_eq]
          exact Program.twins_pure rfl
        | succ left => exact ih left (Nat.lt_succ_self left) hnext

/-- Two orders that come to alike requests, if they come to requests at all. -/
structure Order.Alike (network : Network) (order order' : Order) (url : String) : Prop where
  method : order.method = order'.method
  follow : order.follow = order'.follow
  request : ∀ found, target url = .ok found →
    Request.Alike network ⟨order.method, found, order.accept, order.content⟩
      ⟨order'.method, found, order'.accept, order'.content⟩

theorem Order.Alike.refl (network : Network) (order : Order) (url : String) :
    Order.Alike network order order url :=
  ⟨rfl, rfl, fun _ _ => .inl rfl⟩

variable {client} {order order' : Order} {url : String}

/-- The first request of an attempt is alike, so the attempt is. -/
theorem once_twins (h : s.SameAround s') (horder : Order.Alike s.network order order' url) :
    Twins s s' Eq (client.once order url : Program ε _) (client.once order' url) := by
  rw [once, once, horder.method]
  refine (Program.twins_note (.tried order'.method)).bind_eq fun _ => ?_
  cases htarget : target url with
  | error e => exact Program.twins_pure rfl
  | ok found =>
    have hrequest := horder.request found htarget
    rw [horder.method] at hrequest
    dsimp only
    rw [horder.follow]
    exact client.exchange_twins h order'.follow _ hrequest

/-- A line on a request tells of the order its method only. -/
theorem Order.Alike.logLine_eq {network : Network} (h : Order.Alike network order order' url) :
    order.logLine = order'.logLine := by
  funext url level text more
  rw [logLine, logLine, h.method]

/-- Giving up tells of the address only. -/
theorem giveUp_twins (hline : order.logLine = order'.logLine) (url : String) (attempt : Nat)
    (e : TransportError) :
    Twins s s' Eq (giveUp order url attempt e) (giveUp order' url attempt e) := by
  rw [giveUp, giveUp, hline]
  exact .after_log (Program.twins_throw _)

/-- Attempts are alike one by one, and so are the waits between them. -/
theorem attempts_twins (h : s.SameAround s') (horder : Order.Alike s.network order order' url)
    (left attempt : Nat) :
    Twins s s' Eq (client.attempts order url left attempt)
      (client.attempts order' url left attempt) := by
  have hline := horder.logLine_eq
  induction left generalizing attempt with
  | zero =>
    rw [attempts, attempts, hline]
    refine .after_log ((once_twins h horder).bind_eq fun result => ?_)
    cases result with
    | ok arrival => exact .after_log (Program.twins_pure rfl)
    | error e => exact giveUp_twins hline url attempt e
  | succ left ih =>
    rw [attempts, attempts, hline]
    refine .after_log ((once_twins h horder).bind_eq fun result => ?_)
    cases result with
    | ok arrival => exact .after_log (Program.twins_pure rfl)
    | error e =>
      refine .ite ?_ (giveUp_twins hline url attempt e)
      have hretry : client.retryLine order url attempt e =
          client.retryLine order' url attempt e := by
        rw [retryLine, retryLine, hline]
      rw [hretry]
      exact .after_log ((Program.twins_note _).bind_eq fun _ => ih (attempt + 1))

variable (client)

theorem get_twins (h : s.SameAround s') (url : String) (follow : Bool) :
    Twins s s' Eq (client.get url follow) (client.get url follow) :=
  attempts_twins h (.refl _ _ url) _ 1

/-- What comes of a login does not depend on the password. -/
theorem login_twins (h : s.SameAround s') (baseUrl username password password' : String) :
    Twins s s' Eq
      (client.postJson (authUrl baseUrl) (credentials username password) apiMediaType
        "application/json")
      (client.postJson (authUrl baseUrl) (credentials username password') apiMediaType
        "application/json") := by
  have horder : Order.Alike s.network
      ⟨.post, true, apiMediaType,
        some ⟨"application/json", (credentials username password).compact⟩⟩
      ⟨.post, true, apiMediaType,
        some ⟨"application/json", (credentials username password').compact⟩⟩ (authUrl baseUrl) :=
    ⟨rfl, rfl, fun _ htarget => .inr (.asked username password password' htarget)⟩
  exact attempts_twins h horder _ 1

end Http.Client

theorem consult_twins (h : s.Alike s') (call : Call) :
    Twins s s' call.AnswersAlike (consult call) (consult call) :=
  (Program.twins_ask h call).mapError _

namespace Certificate

theorem ofFile_twins (path : String) : Twins s s' Eq (ofFile path) (ofFile path) :=
  ((Program.twins_readFile path).mapError _).bind_eq fun _ => Program.twins_ofExcept (.refl _)

theorem ofUnit_twins (h : s.Alike s') (application remotePath : String) :
    Twins s s' Eq (ofUnit application remotePath) (ofUnit application remotePath) := by
  rw [ofUnit]
  refine (consult_twins h (.units application)).bind_eq fun units => ?_
  cases units with
  | nil => exact Program.twins_throw _
  | cons unit rest =>
    refine ((Program.twins_makeTemp h.toSameAround .directory).mapError _).bind_eq
      fun directory => ?_
    refine ((Program.twins_ask h (.copy unit remotePath _)).mapError _).bind_eq fun _ => ?_
    exact .after_log (ofFile_twins _)

theorem resolve_twins (h : s.Alike s') (dashboard : Config.Dashboard) :
    Twins s s' Eq (resolve dashboard) (resolve dashboard) :=
  .ite (.after_log (ofFile_twins _)) (ofUnit_twins h _ _)

end Certificate

theorem checkKeys_twins (h : s.Alike s') (application : String) (keys : List String) :
    Twins s s' Eq (checkKeys application keys) (checkKeys application keys) := by
  induction keys with
  | nil => exact Program.twins_pure rfl
  | cons key rest ih =>
    rw [checkKeys]
    refine .after_log ?_
    refine (consult_twins h (.command application (keyCommand key))).bind_eq fun outcome => ?_
    exact .ite ((Program.twins_throw _).bind_eq fun _ => ih) ih

theorem checkExpectedKeys_twins (h : s.Alike s') (application : String) :
    Twins s s' Eq (checkExpectedKeys application) (checkExpectedKeys application) := by
  refine (consult_twins h .names).bind_eq fun applications => ?_
  exact (checkKeys_twins h application _).bind_eq fun _ => Program.twins_pure rfl

theorem applicationRelease_twins (h : s.Alike s') (application : String) :
    Twins s s' Eq (applicationRelease application) (applicationRelease application) := by
  refine (consult_twins h (.settings application)).bind_eq fun settings => ?_
  refine (consult_twins h (.series application)).bind_eq fun series => ?_
  exact (Program.twins_ofExcept (.refl _)).bind_eq fun release =>
    .after_log (Program.twins_pure rfl)

namespace Context

theorem build_twins (h : s.Alike s') (config : Config) :
    Twins s s' Eq (build config) (build config) := by
  refine .after_log ((Certificate.resolve_twins h config.dashboard).bind_eq fun ca => ?_)
  exact (Program.twins_ofExcept (.refl _)).bind_eq fun _ => .after_log (Program.twins_pure rfl)

variable (ctx : Context)

theorem probe_twins (h : s.Alike s') (unit : String) :
    Twins s s' Eq (ctx.probe unit) (ctx.probe unit) := by
  refine (consult_twins h (.address unit)).bind_eq fun address => ?_
  exact (ctx.http.get_twins h.toSameAround _ false).bind_eq fun _ => Program.twins_pure rfl

theorem probeAll_twins (h : s.Alike s') (units : List String) :
    Twins s s' Eq (ctx.probeAll units) (ctx.probeAll units) := by
  induction units with
  | nil => exact Program.twins_pure rfl
  | cons unit rest ih =>
    refine (ctx.probe_twins h unit).bind_eq fun found => .after_log ?_
    exact ih.bind_eq fun _ => Program.twins_pure rfl

theorem probeUnits_twins (h : s.Alike s') : Twins s s' Eq ctx.probeUnits ctx.probeUnits := by
  refine (consult_twins h (.units ctx.application)).bind_eq fun units => ?_
  exact (ctx.probeAll_twins h units).bind_eq fun _ => Program.twins_pure rfl

theorem verifyTopology_twins (h : s.Alike s') :
    Twins s s' Eq ctx.verifyTopology ctx.verifyTopology := by
  refine (ctx.probeUnits_twins h).bind_eq fun topology => ?_
  cases topology.verify with
  | ok _ => exact .after_log (Program.twins_pure rfl)
  | error complaint => exact Program.twins_throw _

theorem firstActive_twins (h : s.Alike s') (units : List String) :
    Twins s s' Eq (ctx.firstActive units) (ctx.firstActive units) := by
  induction units with
  | nil => exact Program.twins_pure rfl
  | cons unit rest ih =>
    refine (ctx.probe_twins h unit).bind_eq fun found => ?_
    exact .ite (.after_log (Program.twins_pure rfl)) (.after_log ih)

theorem requireActive_twins (h : s.Alike s') (scenario : String) :
    Twins s s' Eq (ctx.requireActive scenario) (ctx.requireActive scenario) := by
  have hfind : Twins s s' Eq ctx.findActive ctx.findActive :=
    (consult_twins h (.units ctx.application)).bind_eq fun units => ctx.firstActive_twins h units
  refine hfind.bind_eq fun found => ?_
  cases found with
  | some url => exact Program.twins_pure rfl
  | none => exact Program.twins_throw _

theorem verifyLogin_twins (h : s.SameAround s') (url : String) :
    Twins s s' Eq (ctx.verifyLogin url) (ctx.verifyLogin url) := by
  refine (ctx.http.get_twins h _ false).bind_eq fun login => ?_
  dsimp only
  cases login.response.location?.filter fun _ => Http.isRedirection login.response.status with
  | none => exact Program.twins_throw _
  | some redirect =>
    refine (ctx.http.get_twins h _ false).bind_eq fun metadata => ?_
    have hlast : Twins s s' Eq (do
        Program.log ⟨.info, samlTarget, "SAML login redirects and metadata is served",
          [("url", .text url), ("redirect", .text redirect)]⟩
        return SamlCheck.verified url redirect : Program CheckError SamlCheck) _ :=
      .after_log (Program.twins_pure rfl)
    exact .ite ((Program.twins_throw _).bind_eq fun _ => hlast) hlast

theorem checkSaml_twins (h : s.Alike s') : Twins s s' Eq ctx.checkSaml ctx.checkSaml := by
  refine (Program.twins_ofExcept (.refl _)).bind_eq fun minimum => ?_
  refine (applicationRelease_twins h _).bind_eq fun release => ?_
  refine .ite (.after_log (Program.twins_pure rfl)) ?_
  refine (ctx.requireActive_twins h "saml").bind_eq fun url => ?_
  refine ((Program.twins_makeTemp h.toSameAround _).mapError _).bind_eq fun file => ?_
  refine (consult_twins h (.configure ctx.application _)).bind_eq fun _ => ?_
  exact .after_log (ctx.verifyLogin_twins h.toSameAround url)

end Context

theorem randomUsername_twins (h : s.SameAround s') (start : String) :
    Twins s s' Eq (randomUsername start : Program ε String) (randomUsername start) :=
  (Program.twins_freshName h).bind_eq fun _ => Program.twins_pure rfl

/-- Two runs make a user alike, but for the password that comes back. -/
theorem createUser_twins (h : s.Alike s') (application username role : String) :
    Twins s s' ActionOutcome.Alike (createUser application username role)
      (createUser application username role) := by
  refine (consult_twins h (.action application addUserAction _)).bind
    fun outcome outcome' houtcome => ?_
  rw [houtcome.unit, houtcome.status]
  exact .after_log (Program.twins_pure houtcome)

/-- If one of two alike outcomes has a password, so has the other, and else they are refused in the
same words. -/
theorem passwordOf_paired {o o' : ActionOutcome} (h : o.Alike o') (scenario : String) :
    Paired (fun _ _ => True) (passwordOf o scenario) (passwordOf o' scenario) := by
  have hline : o.line = o'.line := by rw [ActionOutcome.line, ActionOutcome.line, h.status, h.unit,
    h.message]
  rw [passwordOf, passwordOf, ← h.status, ← hline]
  cases o.status.isCompleted with
  | false => exact .error _
  | true =>
    simp only [Bool.not_true, Bool.false_eq_true, if_false, ActionOutcome.result?]
    rcases h.results with hsame | ⟨base, password, password', hp, hp', hbase, hbase'⟩
    · rw [hsame]
      exact (Paired.refl _).mono fun _ _ _ => trivial
    · rw [hbase, hbase', ActionOutcome.writePassword, ActionOutcome.writePassword,
        Json.Value.get?_change_self, Json.Value.get?_change_self]
      cases base.get? "password" with
      | none => exact .error _
      | some old =>
        have hfound : ∀ text : String, text ≠ "" →
            (((some old).map fun _ => Json.Value.string text).bind Json.Value.text?).filter
              (fun password => !password.isEmpty) = some text := by
          intro text htext
          simp [Json.Value.text?, Option.filter, htext]
        rw [hfound _ hp, hfound _ hp']
        exact .ok trivial

namespace Context

variable (ctx : Context)

theorem checkCreateUser_twins (h : s.Alike s') :
    Twins s s' Eq ctx.checkCreateUser ctx.checkCreateUser := by
  refine (randomUsername_twins h.toSameAround _).bind_eq fun username => ?_
  refine (createUser_twins h _ username _).bind fun first first' hfirst => ?_
  refine (Program.twins_ofExcept (passwordOf_paired hfirst _)).bind fun _ _ _ => ?_
  refine (createUser_twins h _ username _).bind fun second second' hsecond => ?_
  rw [hsecond.status]
  exact .ite (Program.twins_throw _) (Program.twins_pure rfl)

theorem accessDashboard_twins (h : s.Alike s') (baseUrl : String) :
    Twins s s' Eq (ctx.accessDashboard baseUrl) (ctx.accessDashboard baseUrl) := by
  refine (randomUsername_twins h.toSameAround _).bind_eq fun username => ?_
  refine (createUser_twins h _ username _).bind fun outcome outcome' houtcome => ?_
  refine (Program.twins_ofExcept (passwordOf_paired houtcome _)).bind
    fun password password' _ => ?_
  refine (ctx.http.login_twins h.toSameAround baseUrl username password password').bind_eq
    fun arrival => ?_
  have hlog : Twins s s' Eq
      (Program.log (loginLine username (authUrl baseUrl)) : Program CheckError Unit) _ :=
    Program.twins_logAll rfl
  exact .ite ((Program.twins_throw _).bind_eq fun _ => hlog) hlog

theorem carryOut_twins (h : s.Alike s') (scenario : Scenario) :
    Twins s s' Eq (ctx.carryOut scenario) (ctx.carryOut scenario) := by
  cases scenario with
  | dashboardUnits => exact (ctx.verifyTopology_twins h).bind_eq fun _ => Program.twins_pure rfl
  | createUser => exact (ctx.checkCreateUser_twins h).bind_eq fun _ => Program.twins_pure rfl
  | accessDashboard =>
    refine (ctx.requireActive_twins h _).bind_eq fun url => ?_
    exact (ctx.accessDashboard_twins h url).bind_eq fun _ => Program.twins_pure rfl
  | cephKeys => exact (checkExpectedKeys_twins h _).bind_eq fun _ => Program.twins_pure rfl
  | saml =>
    refine (ctx.checkSaml_twins h).bind_eq fun check => ?_
    cases check with
    | verified url redirect => exact Program.twins_pure rfl
    | skipped release minimum => exact Program.twins_pure rfl

end Context

/-- The report without how long it took. -/
def ScenarioReport.untimed (r : ScenarioReport) : ScenarioReport := { r with durationMs := 0 }

/-- The report without how long its scenarios took. -/
def SuiteReport.untimed (r : SuiteReport) : SuiteReport :=
  { r with scenarios := r.scenarios.map ScenarioReport.untimed }

theorem SuiteReport.push_untimed (r : SuiteReport) (entry : ScenarioReport) :
    (r.push entry).untimed = r.untimed.push entry.untimed := by
  obtain ⟨name, verdict, durationMs⟩ := entry
  cases verdict <;> simp [push, untimed, ScenarioReport.untimed]

namespace Context

variable (ctx : Context)

/-- The line on the end of a scenario tells one time. -/
theorem endLine_untimed (scenario : Scenario) (ms ms' : Nat) (verdict : Verdict) :
    [endLine scenario ms verdict].map LogLine.untimed =
      [endLine scenario ms' verdict].map LogLine.untimed := by
  cases verdict <;> rfl

/-- A scenario is reported alike but for how long it took. -/
theorem runScenario_twins (h : s.Alike s') (scenario : Scenario) :
    Twins s s' (fun r r' => r.untimed = r'.untimed) (ctx.runScenario scenario)
      (ctx.runScenario scenario) := by
  refine .after_log (Program.twins_now.bind fun started started' _ => ?_)
  refine (ctx.carryOut_twins h scenario).attempt.bind fun result result' hresult => ?_
  rw [hresult.eq]
  refine Program.twins_now.bind fun ended ended' _ => ?_
  refine (Program.twins_logAll (endLine_untimed scenario _ _ _)).bind_eq fun _ => ?_
  exact (Program.twins_note _).bind_eq fun _ => Program.twins_pure rfl

/-- Reports that are alike stay so, scenario by scenario. -/
theorem runAll_twins (h : s.Alike s') (scenarios : List Scenario) {r r' : SuiteReport}
    (hr : r.untimed = r'.untimed) :
    Twins s s' (fun r r' => r.untimed = r'.untimed) (ctx.runAll scenarios r)
      (ctx.runAll scenarios r') := by
  induction scenarios generalizing r r' with
  | nil => exact Program.twins_pure hr
  | cons scenario rest ih =>
    refine (ctx.runScenario_twins h scenario).bind fun entry entry' hentry => ih ?_
    rw [SuiteReport.push_untimed, hr, hentry, SuiteReport.push_untimed]

/-- Runs of scenarios end with the same report, but for how long they took. -/
theorem run_twins (h : s.Alike s') (names : List String) :
    Twins s s' (fun r r' => r.untimed = r'.untimed) (ctx.run names) (ctx.run names) := by
  refine (Program.twins_ofExcept (.refl _)).bind_eq fun scenarios => ?_
  refine (ctx.runAll_twins h scenarios rfl).bind fun report report' hreport => ?_
  have hcounts : (report.passed, report.failed, report.skipped) =
      (report'.passed, report'.failed, report'.skipped) :=
    congrArg (fun r => (r.passed, r.failed, r.skipped)) hreport
  simp only [Prod.mk.injEq] at hcounts
  obtain ⟨hpassed, hfailed, hskipped⟩ := hcounts
  rw [hpassed, hfailed, hskipped]
  exact .after_log (Program.twins_pure hreport)

end Context

end DashboardCheck
