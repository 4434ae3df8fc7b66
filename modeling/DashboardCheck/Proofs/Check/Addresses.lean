import DashboardCheck.Proofs.Check.Suite
import DashboardCheck.Proofs.Config.Loaded
import DashboardCheck.Proofs.Dict
import DashboardCheck.Proofs.Http.Waits

/-!
# What a suite does

A suite asks for addresses that it makes itself, of a scheme of the web, a host and a port. Apart
from where answers lead, it sends requests nowhere else, whatever it meets. What it has copied, what
it tells the dashboard about itself, and how long it waits is bound in the same way by the
configuration.
-/
namespace DashboardCheck

open Program (Abides Any)

/-- The base address of a dashboard: a scheme of the web, a host and a port. -/
def IsBase (url : String) : Prop :=
  ∃ scheme ∈ Config.schemes, ∃ (host : String) (port : Nat), 1 ≤ port ∧ port ≤ Number.max16 ∧
    url = scheme ++ "://" ++ host ++ ":" ++ toString port

/-- A base address, alone or with a path. -/
def IsAddress (url : String) : Prop :=
  ∃ base, IsBase base ∧ (url = base ∨ ∃ path, url = base ++ "/" ++ path)

theorem IsBase.isAddress {url : String} (h : IsBase url) : IsAddress url := ⟨url, h, .inl rfl⟩

theorem IsBase.withPath {url : String} (h : IsBase url) (path : String) :
    IsAddress (url ++ "/" ++ path) :=
  ⟨url, h, .inr ⟨path, rfl⟩⟩

/-- A text that ends in a digit ends in no slash. -/
theorem withoutSlashes_of_digit {front : String} (n : Nat) :
    withoutSlashes (front ++ toString n) = front ++ toString n := by
  have hdigits : (toString n).toList = Number.digitsOf n := String.toList_ofList
  have hlast : ∀ c, (front ++ toString n).toList.reverse.head? = some c →
      (c == '/') = false := by
    intro c hc
    rw [String.toList_append, hdigits, List.reverse_append, List.head?_append] at hc
    have hmem : c ∈ Number.digitsOf n := by
      cases hhead : (Number.digitsOf n).reverse.head? with
      | none => simp [Number.digitsOf_ne_nil] at hhead
      | some d =>
        obtain rfl : d = c := by simpa [hhead] using hc
        exact List.mem_reverse.mp (List.mem_of_head? hhead)
    have hdigit := List.all_eq_true.mp (Number.all_isDigit_digitsOf n) c hmem
    rw [beq_eq_false_iff_ne]
    rintro rfl
    exact absurd hdigit (by decide)
  rw [withoutSlashes, Text.dropWhile_of_head hlast, List.reverse_reverse, String.ofList_toList]

theorem IsBase.authUrl {url : String} (h : IsBase url) : IsAddress (authUrl url) := by
  have hkeep : withoutSlashes url = url := by
    obtain ⟨scheme, -, host, port, -, -, rfl⟩ := h
    exact withoutSlashes_of_digit port
  rw [DashboardCheck.authUrl, hkeep]
  exact h.withPath authPath

/-- What may be done under a configuration: requests go to where an address leads, waits are not
longer than the longest one, a copy has a path on the unit, and the dashboard is told a base address
as its own. -/
def Config.Allows (c : Config) : Program.Proper := fun setting event =>
  match event with
  | .sent request => ∃ url, IsAddress url ∧ Http.Client.Reaches setting url request.url
  | .waited wait => wait.nanos ≤ (Duration.ofSecs c.retry.maxWaitSecs).nanos
  | .called (.copy _ remotePath _) => remotePath ≠ ""
  | .called (.configure _ settings) =>
    ∀ url, settings.get? "saml-base-url" = some url → IsBase url
  | _ => True

/-- An error that tells of a request tells of an address. -/
def CheckError.AtAddress (e : CheckError) : Prop :=
  ∀ url fault, e = .transport url fault → IsAddress url

def CheckError.IsOther (e : CheckError) : Prop := ∀ url fault, e ≠ .transport url fault

theorem CheckError.IsOther.atAddress {e : CheckError} (h : e.IsOther) : e.AtAddress :=
  fun url fault he => absurd he (h url fault)

/-- A program of a suite does what is allowed, and tells of a request only with an address. -/
abbrev Follows {α : Type} (config : Config) (gives : α → Prop) (p : Program CheckError α) : Prop :=
  Abides config.Allows gives CheckError.AtAddress p

section Parts

variable {config : Config} {α β : Type} {gives : α → Prop}

theorem follows_pure {a : α} (h : gives a) : Follows config gives (pure a) :=
  Program.abides_pure h

theorem follows_throw {e : CheckError} (h : e.IsOther) : Follows config gives (throw e) :=
  Program.abides_throw h.atAddress

theorem follows_ofExcept {x : Except CheckError α} (h : ∀ e, x = .error e → e.IsOther) :
    Follows config Any (Program.ofExcept x) := by
  refine Program.abides_ofExcept ?_
  cases x with
  | ok a => trivial
  | error e => exact (h e rfl).atAddress

theorem consult_follows (call : Call) (h : ∀ setting, config.Allows setting (.called call)) :
    Follows config Any (consult call) :=
  (Program.abides_ask h).mapError fun e _ => CheckError.IsOther.atAddress (by rintro _ _ ⟨⟩)

theorem passwordOf_isOther {outcome : ActionOutcome} {scenario : String} {e : CheckError}
    (h : passwordOf outcome scenario = .error e) : e.IsOther := by
  rw [passwordOf] at h
  split at h
  · cases h
    rintro _ _ ⟨⟩
  · split at h
    · cases h
    · cases h
      rintro _ _ ⟨⟩

theorem Certificate.ofFile_follows (path : String) : Follows config Any (ofFile path) := by
  have hread : Follows config Any
      ((Program.readFile path).mapError fun e => .certificate path e.message) :=
    (Program.abides_readFile fun _ => trivial).mapError fun e _ =>
      CheckError.IsOther.atAddress (by rintro _ _ ⟨⟩)
  refine hread.bind fun pem _ => follows_ofExcept fun e he => ?_
  rw [check] at he
  split at he
  · cases he
  · cases he
    rintro _ _ ⟨⟩

theorem Certificate.ofUnit_follows {application remotePath : String} (hremote : remotePath ≠ "") :
    Follows config Any (ofUnit application remotePath) := by
  refine (consult_follows (.units application) fun _ => trivial).bind fun units _ => ?_
  cases units with
  | nil => exact follows_throw (by rintro _ _ ⟨⟩)
  | cons unit more =>
    have hdirectory : Follows config Any (Program.freshDirectory.mapError CheckError.file) :=
      (Program.abides_makeTemp fun _ _ => trivial).mapError fun e _ =>
        CheckError.IsOther.atAddress (by rintro _ _ ⟨⟩)
    refine hdirectory.bind fun directory _ => ?_
    have hcopy : Follows config Any ((Program.ask (.copy unit remotePath
        (directory ++ "/" ++ copyName remotePath))).mapError fun e =>
          .certificate remotePath s!"copy from {unit}: {e.message}") :=
      (Program.abides_ask fun _ => hremote).mapError fun e _ =>
        CheckError.IsOther.atAddress (by rintro _ _ ⟨⟩)
    exact hcopy.bind fun _ _ => ofFile_follows _

/-- A certificate that has to be fetched has a path on the unit, so that fetching it breaks no rule.
-/
theorem Certificate.resolve_follows {dashboard : Config.Dashboard}
    (hremote : dashboard.caCert = "" → dashboard.remoteCaCert ≠ "") :
    Follows config Any (resolve dashboard) := by
  refine Abides.ite (fun _ => ofFile_follows _) fun hlocal => ofUnit_follows ?_
  exact hremote (by simpa using hlocal)

end Parts

/-- A suite that is set up as the configuration says. -/
structure Context.IsSound (ctx : Context) (config : Config) : Prop where
  configured : ctx.config = config
  base : ∀ address, IsBase (ctx.unitUrl address)
  policy : ctx.http.policy = .ofConfig config.retry

/-- A valid configuration makes an address of every address of a unit. -/
theorem Config.IsValid.base {c : Config} (hvalid : c.IsValid) (hwidths : c.InWidths)
    (address : String) :
    IsBase (Http.unitUrl c.dashboard.scheme address c.dashboard.port) := by
  have hport := hvalid.port
  exact ⟨c.dashboard.scheme, hvalid.scheme, Http.hostText address, c.dashboard.port, by omega,
    hwidths.port_le, rfl⟩

theorem Context.build_follows {config : Config} (hvalid : config.IsValid)
    (hwidths : config.InWidths) :
    Follows config (Context.IsSound · config) (build config) := by
  refine Abides.after_log ((Certificate.resolve_follows hvalid.remote).bind fun ca _ => ?_)
  have hmake : Abides config.Allows (fun http : Http.Client => http.policy = .ofConfig config.retry)
      CheckError.AtAddress (Program.ofExcept
        (Http.Client.make (some ca.pem) config.requestTimeout (.ofConfig config.retry))) := by
    refine Program.abides_ofExcept ?_
    rw [Http.Client.make]
    split
    · rfl
    · exact CheckError.IsOther.atAddress (by rintro _ _ ⟨⟩)
  exact hmake.bind fun http hpolicy =>
    Abides.after_log (follows_pure ⟨rfl, hvalid.base hwidths, hpolicy⟩)

namespace Context

variable {ctx : Context} {config : Config} (hsound : ctx.IsSound config)

include hsound

/-- A request for an address. -/
theorem send_follows (order : Http.Client.Order) {url : String} (h : IsAddress url) :
    Follows config Any (ctx.http.send order url) := by
  refine ((ctx.http.send_abides order url).allowing ?_).weaken (fun _ => id) ?_
  · intro setting event hallowed
    cases event with
    | sent request => exact ⟨url, h, hallowed⟩
    | waited wait =>
      have hlongest : ctx.http.policy.maxWait = Duration.ofSecs config.retry.maxWaitSecs := by
        rw [hsound.policy, Http.RetryPolicy.ofConfig]
      rw [Http.Client.Allows, hlongest] at hallowed
      exact hallowed
    | tried method => trivial
    | _ => exact hallowed.elim
  · rintro e ⟨fault, rfl⟩ url' fault' ⟨⟩
    exact h

/-- A probe tells the base address of a unit. -/
theorem probe_follows (unit : String) :
    Follows config (fun found => IsBase found.2.1) (ctx.probe unit) := by
  refine (consult_follows (.address unit) fun _ => trivial).bind fun address _ => ?_
  have hbase := hsound.base address
  exact (send_follows hsound _ hbase.isAddress).bind fun _ _ => follows_pure hbase

theorem probeAll_follows (units : List String) : Follows config Any (ctx.probeAll units) := by
  induction units with
  | nil => exact follows_pure trivial
  | cons unit rest ih =>
    refine (probe_follows hsound unit).bind fun _ _ => ?_
    exact ih.bind fun _ _ => follows_pure trivial

theorem probeUnits_follows : Follows config Any ctx.probeUnits := by
  refine (consult_follows (.units ctx.application) fun _ => trivial).bind fun units _ => ?_
  exact (probeAll_follows hsound units).bind fun _ _ => follows_pure trivial

theorem firstActive_follows (units : List String) :
    Follows config (fun found => ∀ url, found = some url → IsBase url) (ctx.firstActive units) := by
  induction units with
  | nil => exact follows_pure (by simp)
  | cons unit rest ih =>
    refine (probe_follows hsound unit).bind fun found hbase => ?_
    refine Abides.ite (fun _ => follows_pure ?_) fun _ => ih
    rintro url ⟨⟩
    exact hbase

theorem requireActive_follows (scenario : String) :
    Follows config IsBase (ctx.requireActive scenario) := by
  have hfind : Follows config (fun found => ∀ url, found = some url → IsBase url) ctx.findActive :=
    (consult_follows (.units ctx.application) fun _ => trivial).bind fun units _ =>
      firstActive_follows hsound units
  refine hfind.bind fun found hbase => ?_
  cases found with
  | none => exact follows_throw (by rintro _ _ ⟨⟩)
  | some url => exact follows_pure (hbase url rfl)

theorem verifyTopology_follows : Follows config Any ctx.verifyTopology := by
  refine (probeUnits_follows hsound).bind fun topology _ => ?_
  cases topology.verify with
  | ok _ => exact follows_pure trivial
  | error complaint => exact follows_throw (by rintro _ _ ⟨⟩)

end Context

section Parts

variable {config : Config}

theorem checkKeys_follows (application : String) (keys : List String) :
    Follows config Any (checkKeys application keys) := by
  induction keys with
  | nil => exact follows_pure trivial
  | cons key rest ih =>
    refine (consult_follows (.command application (keyCommand key)) fun _ => trivial).bind
      fun outcome _ => ?_
    exact Abides.ite (fun _ => follows_throw (by rintro _ _ ⟨⟩)) fun _ => ih

theorem checkExpectedKeys_follows (application : String) :
    Follows config Any (checkExpectedKeys application) := by
  refine (consult_follows .names fun _ => trivial).bind fun applications _ => ?_
  exact (checkKeys_follows application _).bind fun _ _ => follows_pure trivial

theorem randomUsername_follows (start : String) :
    Follows config Any (randomUsername start : Program CheckError String) := by
  have hname : Follows config Any Program.freshName := Program.abides_freshName fun _ _ => trivial
  exact hname.bind fun _ _ => follows_pure trivial

theorem createUser_follows (application username role : String) :
    Follows config Any (createUser application username role) :=
  (consult_follows (.action application addUserAction _) fun _ => trivial).bind fun _ _ =>
    Abides.after_log (follows_pure trivial)

/-- The series of an application, and then its release. -/
theorem ofSource_follows (application source : String) :
    Follows config Any (do
      let series : String ← consult (.series application)
      let release ← Program.ofExcept ((Release.ofSource source series).mapError .release)
      Program.log (releaseLine application source series release)
      return release) := by
  refine (consult_follows (.series application) fun _ => trivial).bind fun series _ => ?_
  refine Abides.bind (follows_ofExcept fun e he => ?_) fun _ _ =>
    Abides.after_log (follows_pure trivial)
  cases hsource : Release.ofSource source series with
  | ok release => simp [hsource, Except.mapError] at he
  | error fault =>
    obtain rfl : CheckError.release fault = e := by simpa [hsource, Except.mapError] using he
    rintro _ _ ⟨⟩

theorem applicationRelease_follows (application : String) :
    Follows config Any (applicationRelease application) :=
  (consult_follows (.settings application) fun _ => trivial).bind fun _ _ =>
    ofSource_follows application _

theorem applicationRelease_opensWith (application : String) :
    Program.OpensWith (.called (.settings application)) (applicationRelease application) :=
  ((Program.opensWith_ask (.settings application)).mapError _).bind fun settings =>
    (ofSource_follows application (sourceOf settings) : Follows Config.default Any _)

end Parts

namespace Context

variable {ctx : Context} {config : Config}

theorem createUser_follows (username : String) :
    Follows config Any (ctx.createUser username) :=
  DashboardCheck.createUser_follows _ _ _

theorem checkCreateUser_follows : Follows config Any ctx.checkCreateUser := by
  refine (randomUsername_follows _).bind fun username _ => ?_
  refine (createUser_follows username).bind fun first _ => ?_
  refine (follows_ofExcept fun e he => passwordOf_isOther he).bind fun _ _ => ?_
  refine (createUser_follows username).bind fun second _ => ?_
  exact Abides.ite (fun _ => follows_throw (by rintro _ _ ⟨⟩)) fun _ => follows_pure trivial

/-- The check of single sign-on goes on like this once the release is known. -/
def afterRelease (ctx : Context) (minimum release : Release) : Program CheckError SamlCheck := do
  if release < minimum then
    Program.log ⟨.info, samlTarget, "release too old for SAML, skipping",
      [("release", .text release.text), ("minimum", .text minimum.text)]⟩
    return .skipped release minimum
  let url ← ctx.requireActive "saml"
  let file ← (Program.freshFile (Text.encode (idpMetadata ctx.ca.text))).mapError .file
  consult (.configure ctx.application (samlSettings url file))
  Program.log ⟨.info, samlTarget, "enabled SAML on dashboard", [("url", .text url)]⟩
  ctx.verifyLogin url

/-- The oldest release that is checked is known from the configuration. -/
theorem checkSaml_eq {minimum : Release}
    (hminimum : Release.parse ctx.config.saml.minRelease = .ok minimum) : ctx.checkSaml =
      (applicationRelease ctx.config.saml.releaseApplication >>= ctx.afterRelease minimum) := by
  rw [checkSaml, hminimum]
  rfl

variable (hsound : ctx.IsSound config)

include hsound

theorem accessDashboard_follows {url : String} (h : IsBase url) :
    Follows config Any (ctx.accessDashboard url) := by
  refine (randomUsername_follows _).bind fun username _ => ?_
  refine (createUser_follows username).bind fun outcome _ => ?_
  refine (follows_ofExcept fun e he => passwordOf_isOther he).bind fun password _ => ?_
  refine (send_follows hsound _ h.authUrl).bind fun arrival _ => ?_
  exact Abides.ite (fun _ => follows_throw (by rintro _ _ ⟨⟩)) fun _ => follows_pure trivial

theorem verifyLogin_follows {url : String} (h : IsBase url) :
    Follows config Any (ctx.verifyLogin url) := by
  refine (send_follows hsound _ (h.withPath loginPath)).bind fun login _ => ?_
  dsimp only
  split
  · exact follows_throw (by rintro _ _ ⟨⟩)
  · refine (send_follows hsound _ (h.withPath metadataPath)).bind fun metadata _ => ?_
    exact Abides.ite (fun _ => follows_throw (by rintro _ _ ⟨⟩)) fun _ => follows_pure trivial

theorem afterRelease_follows (minimum release : Release) :
    Follows config Any (ctx.afterRelease minimum release) := by
  refine Abides.ite (fun _ => Abides.after_log (follows_pure trivial)) fun _ => ?_
  refine (requireActive_follows hsound "saml").bind fun url hbase => ?_
  have hfile : Follows config Any
      ((Program.freshFile (Text.encode (idpMetadata ctx.ca.text))).mapError CheckError.file) :=
    (Program.abides_makeTemp fun _ _ => trivial).mapError fun e _ =>
      CheckError.IsOther.atAddress (by rintro _ _ ⟨⟩)
  refine hfile.bind fun file _ => ?_
  have htold : ∀ told, (samlSettings url file).get? "saml-base-url" = some told → IsBase told := by
    intro told htold
    have hset : (samlSettings url file).get? "saml-base-url" = some url :=
      Dict.get?_ofList (by simp) (by simp)
    obtain rfl : url = told := Option.some.inj (hset.symm.trans htold)
    exact hbase
  refine (consult_follows (.configure ctx.application (samlSettings url file))
    fun _ => htold).bind fun _ _ => ?_
  exact Abides.after_log (verifyLogin_follows hsound hbase)

variable {minimum : Release} (hrelease : Release.parse config.saml.minRelease = .ok minimum)

include hrelease

theorem checkSaml_follows : Follows config Any ctx.checkSaml := by
  obtain rfl := hsound.configured
  rw [checkSaml_eq hrelease]
  exact (applicationRelease_follows _).bind fun release _ =>
    afterRelease_follows hsound minimum release

/-- The check of single sign-on always gets as far as asking for the deployed release. -/
theorem checkSaml_opensWith :
    Program.OpensWith (.called (.settings config.saml.releaseApplication)) ctx.checkSaml := by
  obtain rfl := hsound.configured
  rw [checkSaml_eq hrelease]
  exact (applicationRelease_opensWith _).bind (afterRelease_follows hsound minimum)

theorem carryOut_follows (scenario : Scenario) :
    Follows config Any (ctx.carryOut scenario) := by
  cases scenario with
  | dashboardUnits => exact (verifyTopology_follows hsound).bind fun _ _ => follows_pure trivial
  | createUser => exact checkCreateUser_follows.bind fun _ _ => follows_pure trivial
  | accessDashboard =>
    refine (requireActive_follows hsound _).bind fun url hbase => ?_
    exact (accessDashboard_follows hsound hbase).bind fun _ _ => follows_pure trivial
  | cephKeys => exact (checkExpectedKeys_follows _).bind fun _ _ => follows_pure trivial
  | saml =>
    refine (checkSaml_follows hsound hrelease).bind fun found _ => ?_
    cases found <;> exact follows_pure trivial

theorem runScenario_follows (scenario : Scenario) :
    Follows config Any (ctx.runScenario scenario) := by
  have hnow : Follows config Any Program.now := fun _ _ => ⟨[], by simp, by simp, trivial⟩
  refine Abides.after_log (hnow.bind fun started _ => ?_)
  refine (carryOut_follows hsound hrelease scenario).attempt.bind fun result _ => ?_
  refine hnow.bind fun ended _ => Abides.after_log ?_
  exact (Program.abides_note fun _ => trivial).bind fun _ _ => follows_pure trivial

theorem runAll_follows (scenarios : List Scenario) (report : SuiteReport) :
    Follows config Any (ctx.runAll scenarios report) := by
  induction scenarios generalizing report with
  | nil => exact follows_pure trivial
  | cons scenario rest ih =>
    exact (runScenario_follows hsound hrelease scenario).bind fun entry _ => ih (report.push entry)

theorem run_follows (names : List String) : Follows config Any (ctx.run names) := by
  refine (follows_ofExcept fun e he => ?_).bind fun scenarios _ =>
    (runAll_follows hsound hrelease _ _).bind fun _ _ => Abides.after_log (follows_pure trivial)
  by_cases hknown : ∀ text ∈ names, Scenario.ofName? text ≠ none
  · obtain ⟨scenarios, hselect⟩ := Scenario.select_known hknown
    rw [hselect] at he
    cases he
  · obtain ⟨text, known, hselect⟩ := Scenario.select_unknown (by simpa using hknown)
    obtain rfl : CheckError.unknownScenario text known = e := by simpa [hselect] using he
    rintro _ _ ⟨⟩

end Context

end DashboardCheck
