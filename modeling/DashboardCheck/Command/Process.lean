import DashboardCheck.Command.Execute

/-!
A whole process: from its arguments to its end.
-/
namespace DashboardCheck

namespace CommandLine

def programName : String := "dashprobe"

def programVersion : String := "0.1.0"

def usage : String :=
  ofLines [s!"Usage: {programName} [OPTIONS] <COMMAND>", "",
    "Commands: " ++ Text.join ", " (Level.top.below.map Prod.fst),
    "Options: " ++ Text.join ", " (Level.top.keys.map Key.text)]

def Refusal.exit (r : Refusal) : Exit :=
  match r with
  | .help => ⟨r.code, usage, ""⟩
  | .version => ⟨r.code, s!"{programName} {programVersion}\n", ""⟩
  | .nothing => ⟨r.code, "", usage⟩
  | _ => ⟨r.code, "", ofLines [s!"error: {r.message}", "", "For more information, try '--help'."]⟩

/-- Runs a process with these arguments, the name of the program not among them. -/
def process (arguments : List String) (env : Environment) (host : Juju.Client → Juju.Host)
    (setting : Setting) (world : World) (sink : Sink := none) : Exit × World :=
  match ofArguments arguments with
  | .error refusal => (refusal.exit.cut sink, world)
  | .ok line => line.execute env host setting world sink

end CommandLine

end DashboardCheck
