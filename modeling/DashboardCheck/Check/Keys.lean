import DashboardCheck.Check.Context
import DashboardCheck.Text.Blank

/-!
Keys in the cluster's store. Applications beside the dashboard leave keys there that it needs; each
of them has to be there.
-/
namespace DashboardCheck

def dashboardKeys : String := "config/mgr/mgr/dashboard/"

/-- The keys of each application, without the place of the dashboard's own. -/
def applicationKeys : List (String × List String) :=
  [("ceph-radosgw", ["RGW_API_ACCESS_KEY", "RGW_API_SECRET_KEY"]),
   ("grafana", ["GRAFANA_API_URL"]),
   ("prometheus", ["PROMETHEUS_API_HOST"])]

def iscsiKey : String := "mgr/dashboard/_iscsi_config"

def expectedKeys (applications : List String) : List String :=
  (applicationKeys.filter fun entry => applications.contains entry.1).flatMap
      (fun entry => entry.2.map (dashboardKeys ++ ·)) ++
    if applications.contains "ceph-iscsi" then [iscsiKey] else []

/-- The command that ends with code zero exactly if a key is there. -/
def keyCommand (key : String) : String := "ceph config-key exists " ++ key

/-- Checks keys one after the other, up to the first that is missing. -/
def checkKeys (application : String) : List String → Program CheckError Unit
  | [] => return ()
  | key :: rest => do
    Program.log ⟨.info, "dashprobe_dashboard::keys", "checking config key exists",
      [("key", .text key)]⟩
    let outcome : CommandOutcome ← consult (.command application (keyCommand key))
    if !outcome.succeeded then
      throw (.assertion "ceph_keys"
        (s!"config key '{key}' missing on {outcome.unit} (exit code {outcome.code}): " ++
          Text.trim outcome.stderr))
    checkKeys application rest

def checkExpectedKeys (application : String) : Program CheckError (List String) := do
  let applications : List String ← consult .names
  let keys := expectedKeys applications
  checkKeys application keys
  return keys

end DashboardCheck
