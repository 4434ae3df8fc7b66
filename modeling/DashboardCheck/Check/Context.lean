import DashboardCheck.Check.Certificate

/-!
What all checks share: the configuration, the client for requests, and the certificate.
-/
namespace DashboardCheck

/-- What checks share. -/
structure Context where
  config : Config
  http : Http.Client
  ca : Certificate

namespace Context

def logTarget : String := "dashprobe_dashboard::context"

def buildWarnings (c : Config.Dashboard) : List LogLine :=
  if c.scheme = "http" then
    [⟨.warn, logTarget, "dashboard.scheme is http, responses are not TLS-verified",
      [("application", .text c.application), ("port", .number c.port)]⟩]
  else []

/-- Gets the certificate, then sets up the client that trusts it. -/
def build (config : Config) : Program CheckError Context := do
  Program.logAll (buildWarnings config.dashboard)
  let ca ← Certificate.resolve config.dashboard
  let http ← Program.ofExcept
    (Http.Client.make (some ca.pem) config.requestTimeout (.ofConfig config.retry))
  Program.log ⟨.debug, logTarget, "suite context ready", [("ca", .text ca.path)]⟩
  return ⟨config, http, ca⟩

def application (ctx : Context) : String := ctx.config.dashboard.application

def unitUrl (ctx : Context) (address : String) : String :=
  Http.unitUrl ctx.config.dashboard.scheme address ctx.config.dashboard.port

end Context

end DashboardCheck
