import DashboardCheck.Proofs.Check.Addresses
import DashboardCheck.Proofs.Check.Creation
import DashboardCheck.Proofs.Check.Endpoint
import DashboardCheck.Proofs.Orchestrator.Mock

/-!
# The gate of single sign-on

The check goes through stages. The deployed release is found to be new enough, then an active unit
is found, then the dashboard is told about the identity provider, and then its login redirects. All
ends of the check are listed by the stage that came before. They are courses of the check, and one
of them always comes about, so what holds of each end holds of the check.
-/
namespace DashboardCheck

open Program (Does Within)

namespace Setting

variable (setting : Setting) {world : World}

def changed (world : World) : Event → List (String × Dict String)
  | .called (.configure application settings) =>
    if (setting.orchestrator world (.configure application settings)).1.isOk then
      [(application, settings)]
    else []
  | _ => []

/-- The changes of settings that these events bring about, one after the other. -/
def changes : World → Trace → List (String × Dict String)
  | _, [] => []
  | world, event :: rest => setting.changed world event ++ changes (setting.step world event) rest

variable {setting}

end Setting

namespace Mock

variable {m : Mock} {setting : Setting}

end Mock

/-- A question about the release of an application. -/
def Event.IsQuestion : Event → Prop
  | .called (.settings _) => True
  | .called (.series _) => True
  | _ => False

theorem within_applicationRelease (application : String) :
    Within Event.IsQuestion (applicationRelease application) := by
  refine (within_consult trivial).bind fun settings => ?_
  exact (within_consult trivial).bind fun series =>
    (Program.within_ofExcept _).bind fun release => (Program.within_pure release).after_log

/-- A response redirects here: its status says so, and it can be read where it points to. -/
def Http.Response.RedirectsTo (response : Response) (redirect : String) : Prop :=
  300 ≤ response.status ∧ response.status < 400 ∧ response.location? = some redirect

/-- An answer leads on only with a status of redirection and a readable place. -/
theorem Http.Response.redirectsTo_iff {response : Response} {redirect : String} :
    response.RedirectsTo redirect ↔
      (response.location?.filter fun _ => isRedirection response.status) = some redirect := by
  rw [RedirectsTo, Option.filter_eq_some_iff, isRedirection]
  simp [and_comm, and_assoc]

/-- How far the check has come. -/
inductive SamlStage where
  /-- The release is new enough. -/
  | released (release : Release)
  /-- An active unit is found. -/
  | found (url : String)
  /-- The dashboard is told about the identity provider. -/
  | told (url : String)
  /-- Login redirects. -/
  | redirected (url redirect : String)

namespace Context

variable (ctx : Context) (setting : Setting) (world : World) (minimum : Release)

def metadataEntry : Entry := .file (Text.encode (idpMetadata ctx.ca.text))

/-- The file with the metadata of the identity provider, as it is made in this world. -/
def metadataMade : Event := .made (setting.temp world.trace.tempsMade) ctx.metadataEntry

/-- What the dashboard at this address is set to in this world. -/
def signOn (url : String) : Dict String :=
  samlSettings url (setting.temp world.trace.tempsMade)

/-- What is done to tell the dashboard about the identity provider. -/
def telling (url : String) : Trace :=
  [ctx.metadataMade setting world, .called (.configure ctx.application (signOn setting world url))]

def told (url : String) : Except OrchestratorError Unit :=
  (setting.orchestrator (setting.replay world [ctx.metadataMade setting world])
    (.configure ctx.application (signOn setting world url))).1

def deployedRelease : Program CheckError Release :=
  applicationRelease ctx.config.saml.releaseApplication

def getLogin (url : String) : Program CheckError Http.Arrival :=
  ctx.http.get (url ++ "/" ++ loginPath) false

def getMetadata (url : String) : Program CheckError Http.Arrival :=
  ctx.http.get (url ++ "/" ++ metadataPath) false

/-- The complaint about a login that does not redirect. -/
def unredirected (url : String) (response : Http.Response) : CheckError :=
  let loginUrl := url ++ "/" ++ loginPath
  .assertion "saml" s!"{loginUrl} expected a redirect, got {Http.statusText response.status}"

/-- The complaint about metadata that is not there. -/
def misdescribed (url : String) (response : Http.Response) : CheckError :=
  let metadataUrl := url ++ "/" ++ metadataPath
  .assertion "saml" s!"{metadataUrl} expected 200 OK, got {Http.statusText response.status}"

/-- The check comes to a stage, and this is done by then. -/
inductive SamlReaches : SamlStage → Trace → Prop where
  | released {release done} :
      Does setting world ctx.deployedRelease (.ok release) done → ¬ release < minimum →
      SamlReaches (.released release) done
  | found {release url done probing} :
      SamlReaches (.released release) done →
      Does setting (setting.replay world done) ctx.findActive (.ok (some url)) probing →
      SamlReaches (.found url) (done ++ probing)
  | told {url done} :
      SamlReaches (.found url) done →
      setting.tempFault (setting.replay world done) ctx.metadataEntry = none →
      ctx.told setting (setting.replay world done) url = .ok () →
      SamlReaches (.told url) (done ++ ctx.telling setting (setting.replay world done) url)
  | redirected {url redirect arrival done asked} :
      SamlReaches (.told url) done →
      Does setting (setting.replay world done) (ctx.getLogin url) (.ok arrival) asked →
      arrival.response.RedirectsTo redirect →
      SamlReaches (.redirected url redirect) (done ++ asked)

/-- The check ends like this. -/
inductive SamlEnds : Except CheckError SamlCheck → Trace → Prop where
  | unreleased {e done} :
      Does setting world ctx.deployedRelease (.error e) done → SamlEnds (.error e) done
  | skipped {release done} :
      Does setting world ctx.deployedRelease (.ok release) done → release < minimum →
      SamlEnds (.ok (.skipped release minimum)) done
  | unfound {release found e done probing} :
      ctx.SamlReaches setting world minimum (.released release) done →
      Does setting (setting.replay world done) ctx.findActive found probing →
      ctx.endpoint "saml" found = .error e →
      SamlEnds (.error e) (done ++ probing)
  | unmade {url fault done} :
      ctx.SamlReaches setting world minimum (.found url) done →
      setting.tempFault (setting.replay world done) ctx.metadataEntry = some fault →
      SamlEnds (.error (.file fault)) done
  | untold {url e done} :
      ctx.SamlReaches setting world minimum (.found url) done →
      setting.tempFault (setting.replay world done) ctx.metadataEntry = none →
      ctx.told setting (setting.replay world done) url = .error e →
      SamlEnds (.error (.orchestrator e))
        (done ++ ctx.telling setting (setting.replay world done) url)
  | unanswered {url e done asked} :
      ctx.SamlReaches setting world minimum (.told url) done →
      Does setting (setting.replay world done) (ctx.getLogin url) (.error e) asked →
      SamlEnds (.error e) (done ++ asked)
  | unredirected {url arrival done asked} :
      ctx.SamlReaches setting world minimum (.told url) done →
      Does setting (setting.replay world done) (ctx.getLogin url) (.ok arrival) asked →
      (∀ redirect, ¬ arrival.response.RedirectsTo redirect) →
      SamlEnds (.error (unredirected url arrival.response)) (done ++ asked)
  | undescribed {url redirect e done asked} :
      ctx.SamlReaches setting world minimum (.redirected url redirect) done →
      Does setting (setting.replay world done) (ctx.getMetadata url) (.error e) asked →
      SamlEnds (.error e) (done ++ asked)
  | misdescribed {url redirect arrival done asked} :
      ctx.SamlReaches setting world minimum (.redirected url redirect) done →
      Does setting (setting.replay world done) (ctx.getMetadata url) (.ok arrival) asked →
      arrival.response.status ≠ 200 →
      SamlEnds (.error (misdescribed url arrival.response)) (done ++ asked)
  | verified {url redirect arrival done asked} :
      ctx.SamlReaches setting world minimum (.redirected url redirect) done →
      Does setting (setting.replay world done) (ctx.getMetadata url) (.ok arrival) asked →
      arrival.response.status = 200 →
      SamlEnds (.ok (.verified url redirect)) (done ++ asked)

/-- Tells the dashboard about the identity provider, and goes on from there. -/
def afterFound (url : String) : Program CheckError SamlCheck := do
  let file ← (Program.freshFile (Text.encode (idpMetadata ctx.ca.text))).mapError .file
  consult (.configure ctx.application (samlSettings url file))
  Program.log ⟨.info, samlTarget, "enabled SAML on dashboard", [("url", .text url)]⟩
  ctx.verifyLogin url

def afterRedirect (url redirect : String) : Program CheckError SamlCheck := do
  let metadata := (← ctx.getMetadata url).response
  if metadata.status ≠ 200 then throw (misdescribed url metadata)
  Program.log ⟨.info, samlTarget, "SAML login redirects and metadata is served",
    [("url", .text url), ("redirect", .text redirect)]⟩
  return .verified url redirect

def samlRest : SamlStage → Program CheckError SamlCheck
  | .released _ => ctx.requireActive "saml" >>= ctx.afterFound
  | .found url => ctx.afterFound url
  | .told url => ctx.verifyLogin url
  | .redirected url redirect => ctx.afterRedirect url redirect

/-- Verifying, with what follows the redirect as a program of its own. -/
theorem verifyLogin_eq (url : String) : ctx.verifyLogin url =
    (ctx.getLogin url >>= fun arrival =>
      match arrival.response.location?.filter fun _ =>
        Http.isRedirection arrival.response.status with
      | none => throw (unredirected url arrival.response)
      | some redirect => ctx.afterRedirect url redirect) := rfl

variable {ctx setting world minimum} {url redirect : String} {arrival : Http.Arrival}
  {result : Except CheckError SamlCheck} {done asked later events : Trace}

/-- The dashboard is told in one call, after the file with the metadata was made. -/
theorem does_tell (ctx : Context) (setting : Setting) (world : World) (url : String) :
    Does setting (setting.replay world [ctx.metadataMade setting world])
      (consult (.configure ctx.application (signOn setting world url)))
      ((ctx.told setting world url).mapError .orchestrator)
      [.called (.configure ctx.application (signOn setting world url))] :=
  does_consult _

/-- Where the file cannot be made, nothing is done at all. -/
theorem does_afterFound_unmade {fault : FileError}
    (h : setting.tempFault world ctx.metadataEntry = some fault) :
    Does setting world (ctx.afterFound url) (.error (.file fault)) [] :=
  ((Program.does_makeTemp_error h).mapError CheckError.file).bind_error

/-- Where temporary files can be made, the metadata of the provider is in a new one. -/
theorem does_metadataMade (h : setting.tempFault world ctx.metadataEntry = none) :
    Does setting world
      ((Program.freshFile (Text.encode (idpMetadata ctx.ca.text))).mapError CheckError.file)
      (.ok (setting.temp world.trace.tempsMade)) [ctx.metadataMade setting world] :=
  (Program.does_makeTemp h).mapError CheckError.file

/-- A dashboard that cannot be told ends the check; no request is sent. -/
theorem does_afterFound_untold {e : OrchestratorError}
    (hmade : setting.tempFault world ctx.metadataEntry = none)
    (h : ctx.told setting world url = .error e) :
    Does setting world (ctx.afterFound url) (.error (.orchestrator e))
      (ctx.telling setting world url) := by
  have htell := ctx.does_tell setting world url
  rw [h] at htell
  exact (does_metadataMade hmade).bind_ok htell.bind_error

/-- Once the dashboard is told, verifying decides. -/
theorem does_afterFound_told (hmade : setting.tempFault world ctx.metadataEntry = none)
    (h : ctx.told setting world url = .ok ())
    (hrest : Does setting (setting.replay world (ctx.telling setting world url))
      (ctx.verifyLogin url) result later) :
    Does setting world (ctx.afterFound url) result (ctx.telling setting world url ++ later) := by
  have htell := ctx.does_tell setting world url
  rw [h] at htell
  exact (does_metadataMade hmade).bind_ok (htell.bind_ok hrest.after_log)

/-- A login that leads on leaves the result to what follows. -/
theorem does_verifyLogin_redirected
    (hlogin : Does setting world (ctx.getLogin url) (.ok arrival) asked)
    (hredirect : arrival.response.RedirectsTo redirect)
    (hrest : Does setting (setting.replay world asked) (ctx.afterRedirect url redirect) result
      later) :
    Does setting world (ctx.verifyLogin url) result (asked ++ later) := by
  rw [verifyLogin_eq]
  refine hlogin.bind_ok ?_
  rw [Http.Response.redirectsTo_iff] at hredirect
  rw [hredirect]
  exact hrest

/-- A login that leads nowhere ends the check. -/
theorem does_verifyLogin_unredirected
    (hlogin : Does setting world (ctx.getLogin url) (.ok arrival) asked)
    (hstays : ∀ redirect, ¬ arrival.response.RedirectsTo redirect) :
    Does setting world (ctx.verifyLogin url) (.error (unredirected url arrival.response))
      asked := by
  have hnone : (arrival.response.location?.filter fun _ =>
      Http.isRedirection arrival.response.status) = none := by
    rw [Option.eq_none_iff_forall_ne_some]
    intro redirect hredirect
    exact hstays redirect (Http.Response.redirectsTo_iff.mpr hredirect)
  rw [verifyLogin_eq, ← List.append_nil asked]
  refine hlogin.bind_ok ?_
  rw [hnone]
  exact Program.does_throw _

/-- From a stage on, what is left of the check is all that there is. -/
theorem SamlReaches.does (hminimum : Release.parse ctx.config.saml.minRelease = .ok minimum)
    {stage : SamlStage} (h : ctx.SamlReaches setting world minimum stage done)
    (hrest : Does setting (setting.replay world done) (ctx.samlRest stage) result later) :
    Does setting world ctx.checkSaml result (done ++ later) := by
  -- what is left after one stage begins with the step to the next
  induction h generalizing result later with
  | released hrelease hnew =>
    rw [checkSaml_eq hminimum]
    refine hrelease.bind_ok ?_
    rw [afterRelease, if_neg hnew]
    exact hrest
  | found _ hfound ih =>
    rw [List.append_assoc]
    rw [Setting.replay_append] at hrest
    exact ih ((ctx.does_requireActive "saml" hfound).bind_ok hrest)
  | told _ hmade htold ih =>
    rw [List.append_assoc]
    rw [Setting.replay_append] at hrest
    exact ih (does_afterFound_told hmade htold hrest)
  | redirected _ hlogin hredirect ih =>
    rw [List.append_assoc]
    rw [Setting.replay_append] at hrest
    exact ih (does_verifyLogin_redirected hlogin hredirect hrest)

/-- Each way to end is a course of the check. Since a course has one result, the ways exclude each
other. -/
theorem SamlEnds.does (hminimum : Release.parse ctx.config.saml.minRelease = .ok minimum)
    (h : ctx.SamlEnds setting world minimum result events) :
    Does setting world ctx.checkSaml result events := by
  cases h with
  | unreleased hrelease =>
    rw [checkSaml_eq hminimum]
    exact hrelease.bind_error
  | skipped hrelease hold =>
    rw [checkSaml_eq hminimum, ← List.append_nil events]
    refine hrelease.bind_ok ?_
    rw [afterRelease, if_pos hold]
    exact (Program.does_pure _).after_log
  | unfound hstage hfound hnone =>
    refine hstage.does hminimum ?_
    have hrequire := ctx.does_requireActive "saml" hfound
    rw [hnone] at hrequire
    exact hrequire.bind_error
  | unmade hstage hfault =>
    -- nothing is done at this stage, so the course is that of the stages before
    rw [← List.append_nil events]
    exact hstage.does hminimum (does_afterFound_unmade hfault)
  | untold hstage hmade htold =>
    exact hstage.does hminimum (does_afterFound_untold hmade htold)
  | unanswered hstage hlogin => exact hstage.does hminimum hlogin.bind_error
  | unredirected hstage hlogin hstays =>
    exact hstage.does hminimum (does_verifyLogin_unredirected hlogin hstays)
  | undescribed hstage hmetadata => exact hstage.does hminimum hmetadata.bind_error
  | @misdescribed url redirect arrival done asked hstage hmetadata hstatus =>
    refine hstage.does hminimum ?_
    rw [← List.append_nil asked]
    refine hmetadata.bind_ok ?_
    rw [if_pos hstatus]
    exact (Program.does_throw _).bind_error
  | @verified url redirect arrival done asked hstage hmetadata hstatus =>
    refine hstage.does hminimum ?_
    rw [← List.append_nil asked]
    refine hmetadata.bind_ok ?_
    rw [if_neg (not_not_intro hstatus)]
    exact (Program.does_pure _).after_log

/-- Finding out the release only asks: it changes nothing and sends nothing. -/
theorem questions_of_deployedRelease {deployed : Except CheckError Release}
    (h : Does setting world ctx.deployedRelease deployed events) :
    ∀ event ∈ events, event.IsQuestion :=
  (within_applicationRelease _).of_does h

theorem SamlReaches.questions {release : Release}
    (h : ctx.SamlReaches setting world minimum (.released release) done) :
    ∀ event ∈ done, event.IsQuestion := by
  cases h with
  | released hrelease hnew => exact questions_of_deployedRelease hrelease

theorem SamlReaches.searches (h : ctx.SamlReaches setting world minimum (.found url) done) :
    ∀ event ∈ done, event.IsQuestion ∨ event.IsProbe := by
  cases h with
  | found hstage hfound =>
    intro event hevent
    rcases List.mem_append.mp hevent with hevent | hevent
    · exact .inl (hstage.questions event hevent)
    · exact .inr (ctx.within_findActive.of_does hfound event hevent)

/-- An end of the check is the only one. -/
theorem SamlEnds.unique (hminimum : Release.parse ctx.config.saml.minRelease = .ok minimum)
    {result' : Except CheckError SamlCheck} {events' : Trace}
    (h : ctx.SamlEnds setting world minimum result events)
    (h' : ctx.SamlEnds setting world minimum result' events') :
    result = result' ∧ events = events' :=
  (h.does hminimum).unique (h'.does hminimum)

/-- A scenario that has no file to tell the dashboard of the identity provider with fails, and tells
the dashboard nothing. -/
theorem reports_unmade (hminimum : Release.parse ctx.config.saml.minRelease = .ok minimum)
    {fault : FileError} (hstage : ctx.SamlReaches setting world minimum (.found url) done)
    (hfault : setting.tempFault (setting.replay world done) ctx.metadataEntry = some fault) :
    ctx.Reports setting world .saml (.failed (CheckError.file fault).message) done := by
  have hend := (SamlEnds.unmade hstage hfault).does hminimum
  have hdoes : Does setting world (ctx.carryOut .saml) (.error (.file fault)) done :=
    hend.bind_error
  exact reports_of_does hdoes

end Context

end DashboardCheck
