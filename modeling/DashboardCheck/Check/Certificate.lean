import DashboardCheck.Config.Basic
import DashboardCheck.Http.Client

/-!
The certificate that the dashboard's own is checked against: a local file, or a file copied from the
first unit of the dashboard into a directory of its own.
-/
namespace DashboardCheck

open Text

structure Certificate where
  path : String
  pem : Bytes
  deriving DecidableEq, Repr

def consult (call : Call) : Program CheckError call.Answer :=
  (Program.ask call).mapError .orchestrator

/-- The last name in a path, unless the path ends in a directory that only dots name. -/
def fileName? (path : String) : Option String :=
  let names := ((pieces '/' path.toList).map String.ofList).filter fun name =>
    name != "" && name != "."
  names.getLast?.filter (· != "..")

namespace Certificate

def logTarget : String := "dashprobe_dashboard::certs"

def text (c : Certificate) : String := decodeLossy c.pem

def check (path : String) (pem : Bytes) : Except CheckError Certificate :=
  if occursIn Http.Certificate.marker.toList (decodeLossy pem).toList then .ok ⟨path, pem⟩
  else .error (.certificate path "not a PEM certificate")

def ofFile (path : String) : Program CheckError Certificate := do
  let pem ← (Program.readFile path).mapError fun e => .certificate path e.message
  Program.ofExcept (check path pem)

def copyName (remotePath : String) : String := (fileName? remotePath).getD "ca.crt"

/-- The certificate on the first unit of an application, copied into a new directory. -/
def ofUnit (application remotePath : String) : Program CheckError Certificate := do
  match ← consult (.units application) with
  | [] =>
    throw (.certificate remotePath s!"application '{application}' has no units to copy from")
  | unit :: _ =>
    let directory ← Program.freshDirectory.mapError .file
    let path := directory ++ "/" ++ copyName remotePath
    (Program.ask (.copy unit remotePath path)).mapError fun e =>
      .certificate remotePath s!"copy from {unit}: {e.message}"
    Program.log ⟨.info, logTarget, "fetched CA certificate",
      [("unit", .text unit), ("remote", .text remotePath), ("local", .text path)]⟩
    ofFile path

def resolve (c : Config.Dashboard) : Program CheckError Certificate :=
  if !c.caCert.isEmpty then do
    Program.log ⟨.info, logTarget, "using local CA certificate", [("path", .text c.caCert)]⟩
    ofFile c.caCert
  else ofUnit c.application c.remoteCaCert

end Certificate

end DashboardCheck
