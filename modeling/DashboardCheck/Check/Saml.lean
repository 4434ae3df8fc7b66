import DashboardCheck.Check.Probe

/-!
Single sign-on. It is checked only where the release has it: the dashboard is told about an identity
provider, and then its login has to redirect and its metadata has to be there.
-/
namespace DashboardCheck

inductive SamlCheck where
  /-- Login redirects and the metadata is there. -/
  | verified (url redirect : String)
  /-- The release is too old. -/
  | skipped (release minimum : Release)
  deriving DecidableEq, Repr

def SamlCheck.toJson : SamlCheck → Json.Value
  | verified url redirect =>
    .ofMembers [("result", .string "verified"), ("url", .string url),
      ("redirect", .string redirect)]
  | skipped release minimum =>
    .ofMembers [("result", .string "skipped"), ("release", .string release.text),
      ("minimum", .string minimum.text)]

/-- The settings that tell the package source of an application, the first one first. -/
def sourceSettings : List String := ["source", "openstack-origin"]

/-- The package source among the settings of an application: the first that is a text. -/
def sourceOf (settings : Dict Json.Value) : String :=
  (sourceSettings.findSome? fun name => (settings.get? name).bind Json.Value.text?).getD ""

def releaseLine (application source series : String) (release : Release) : LogLine :=
  ⟨.debug, "dashprobe_dashboard::release", "resolved release",
    [("application", .text application), ("source", .text source), ("series", .text series),
     ("release", .text release.text)]⟩

def applicationRelease (application : String) : Program CheckError Release := do
  let settings : Dict Json.Value ← consult (.settings application)
  let series : String ← consult (.series application)
  let source := sourceOf settings
  let release ← Program.ofExcept ((Release.ofSource source series).mapError .release)
  Program.log (releaseLine application source series release)
  return release

/-- What the dashboard is told about the identity provider, around its certificate. -/
def idpMetadata (certificate : String) : String :=
  "<ds:KeyInfo xmlns:ds=\"http://www.w3.org/2000/09/xmldsig#\">\n" ++
  "    <ds:X509Data>\n" ++
  "        <ds:X509Certificate>\n" ++
  "            " ++ certificate ++ "\n" ++
  "        </ds:X509Certificate>\n" ++
  "    </ds:X509Data>\n" ++
  "</ds:KeyInfo>\n"

def loginPath : String := "auth/saml2/login"

/-- Where the metadata of the dashboard is, below the base address. -/
def metadataPath : String := "auth/saml2/metadata"

def samlSettings (url metadataFile : String) : Dict String :=
  Dict.ofList [("saml-base-url", url), ("saml-idp-metadata", "file://" ++ metadataFile)]

namespace Context

/-- Where log lines about single sign-on come from. -/
def samlTarget : String := "dashprobe_dashboard::saml"

def verifyLogin (ctx : Context) (url : String) : Program CheckError SamlCheck := do
  let loginUrl := url ++ "/" ++ loginPath
  let login := (← ctx.http.get loginUrl false).response
  match login.location?.filter fun _ => Http.isRedirection login.status with
  | none =>
    throw (.assertion "saml"
      s!"{loginUrl} expected a redirect, got {Http.statusText login.status}")
  | some redirect =>
    let metadataUrl := url ++ "/" ++ metadataPath
    let metadata := (← ctx.http.get metadataUrl false).response
    if metadata.status ≠ 200 then
      throw (.assertion "saml"
        s!"{metadataUrl} expected 200 OK, got {Http.statusText metadata.status}")
    Program.log ⟨.info, samlTarget, "SAML login redirects and metadata is served",
      [("url", .text url), ("redirect", .text redirect)]⟩
    return .verified url redirect

def checkSaml (ctx : Context) : Program CheckError SamlCheck := do
  let minimum ← Program.ofExcept
    ((Release.parse ctx.config.saml.minRelease).mapError .release)
  let release ← applicationRelease ctx.config.saml.releaseApplication
  if release < minimum then
    Program.log ⟨.info, samlTarget, "release too old for SAML, skipping",
      [("release", .text release.text), ("minimum", .text minimum.text)]⟩
    return .skipped release minimum
  let url ← ctx.requireActive "saml"
  let file ← (Program.freshFile (Text.encode (idpMetadata ctx.ca.text))).mapError .file
  consult (.configure ctx.application (samlSettings url file))
  Program.log ⟨.info, samlTarget, "enabled SAML on dashboard", [("url", .text url)]⟩
  ctx.verifyLogin url

end Context

end DashboardCheck
