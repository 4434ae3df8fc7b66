import DashboardCheck.Command.Logging
import DashboardCheck.Uuid

/-!
The program. It reads the files that the command line and the environment name and prints what the
command says. It starts no other program and connects to nothing, so what needs the orchestrator
ends with the report that it cannot be reached.
-/
namespace DashboardCheck

def readEnvironment : IO Environment := do
  let names := CommandLine.colourVariable :: Config.settings.map Config.Setting.variable
  let found ← names.filterMapM fun name => do
    return (← IO.getEnv name).map fun value => (name, Text.encode value)
  return Dict.ofList found

/-- The file at a path, if it can be read. A directory is known by the error that it causes. -/
def readEntry (path : String) : IO (List (String × Entry)) := do
  try
    let content ← IO.FS.readBinFile path
    return [(path, .file content.toList)]
  catch
    | .inappropriateType .. => return [(path, .directory)]
    | _ => return []

/-- The disk as far as it matters: the configuration, and the certificate that it names. -/
def readDisk (arguments : List String) (env : Environment) : IO Disk := do
  let here := (Text.pieces '/' (← IO.currentDir).toString.toList).map String.ofList
  let here := here.filter fun name => name ≠ ""
  match CommandLine.ofArguments arguments with
  | .error _ => return .ofFiles here []
  | .ok line =>
    let files ← readEntry line.config
    match Config.loadOrDefault (.ofFiles here files) env line.config with
    | .error _ => return .ofFiles here files
    | .ok config => return .ofFiles here (files ++ (← readEntry config.dashboard.caCert))

/-- What the program meets: nothing that it could run or connect to. -/
def isolated : Setting where
  orchestrator world _ := (.error (.spawn "" ""), world.disk)
  network _ _ _ := .unconnected
  name n := Uuid.ofRandom n
  temp n := s!"/tmp/dashprobe-{n}"
  clock _ := 0

def emptyHost : Juju.Host := fun world _ _ =>
  (.notStarted FileError.notFound.message, world.disk)

end DashboardCheck

open DashboardCheck in
def main (arguments : List String) : IO UInt32 := do
  let env ← readEnvironment
  let disk ← readDisk arguments env
  let (exit, _) :=
    CommandLine.launch arguments env (fun _ => emptyHost) isolated ⟨[], disk⟩
  (← IO.getStdout).putStr exit.stdout
  (← IO.getStderr).putStr exit.stderr
  return exit.code.toUInt32
