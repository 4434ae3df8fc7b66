import DashboardCheck.Juju.Client
import DashboardCheck.World.Program

/-!
The tool at work: a host runs programs, which end somehow and may leave files. Also a host with a
script, on which the tool plays one line of the script each time that it is run.
-/
namespace DashboardCheck.Juju

open Text

/-- What becomes of a run of a program with arguments, and the disk that it leaves. -/
abbrev Host := World → String → List String → Run × Disk

/-- The orchestrator behind the tool, as programs meet it. -/
def Client.orchestrator (client : Client) (host : Host) (world : World) :
    (call : Call) → Except OrchestratorError call.Answer × Disk
  | .configure _ [] => (.ok (), world.disk)
  | call =>
    let (run, disk) := host world client.binary (client.arguments (invocation call))
    (client.interpret run call, disk)

def Client.remarks (client : Client) (host : Host) (world : World) (call : Call) : List LogLine :=
  if needsRun call then
    client.runLines (host world client.binary (client.arguments (invocation call))).1 call
  else []

def Client.inside (client : Client) (host : Host) (setting : Setting) : Setting :=
  { setting with orchestrator := client.orchestrator host, remarks := client.remarks host }

def Client.runs (client : Client) (calls : List Call) : List (List String) :=
  (calls.filter needsRun).map fun call => client.arguments (invocation call)

/-- Whether a text contains a character that no argument can have. -/
def hasNul (s : String) : Bool := s.toList.contains '\x00'

/-- Why a program cannot be started; none if it can. On the path for programs there is only `juju`;
no file on the disk is a program. -/
def obstacle? (disk : Disk) (binary : String) (arguments : List String) : Option String :=
  if hasNul binary || arguments.any hasNul then some "nul byte found in provided data"
  else if binary = "juju" then none
  else if binary.toList.contains '/' then
    match disk.resolve binary with
    | .error e => some e.message
    | .ok place =>
      if (disk.find? place).isSome then some "Permission denied (os error 13)"
      else some FileError.notFound.message
  else if binary = "." || binary = ".." then some "Permission denied (os error 13)"
  else if Disk.maxName < binary.utf8ByteSize then some FileError.nameTooLong.message
  else some FileError.notFound.message

/-- What the tool does when it is run. -/
structure Line where
  code : Int
  stdout : Bytes
  stderr : Bytes
  /-- What it writes to the file that its last argument names. -/
  copied : Option Bytes
  /-- Whether it does not end. -/
  endless : Bool
  /-- Whether it is killed. -/
  killed : Bool
  deriving DecidableEq, Repr

/-- What the tool does when the script is over. -/
def Line.missing : Line := ⟨97, [], encode "no scripted response\n", none, false, false⟩

/-- The codes that a program can end with: eight bits. -/
def exitCodes : Int := 256

def Line.run (line : Line) : Run :=
  if line.endless then .timedOut
  else .finished (if line.killed then none else some (line.code % exitCodes))
    line.stdout line.stderr

def Line.leave (line : Line) (disk : Disk) (arguments : List String) : Disk :=
  match line.copied, arguments.getLast? with
  | some content, some path =>
    match disk.write path content with
    | .ok disk => disk
    | .error _ => disk
  | _, _ => disk

def Client.started (client : Client) (world : World) : List (List String) :=
  (client.runs world.trace.calls).filter fun arguments =>
    (obstacle? world.disk client.binary arguments).isNone

def Client.scriptedHost (client : Client) (script : List Line) : Host :=
  fun world binary arguments =>
    match obstacle? world.disk binary arguments with
    | some reason => (.notStarted reason, world.disk)
    | none =>
      let line := (script[(client.started world).length]?).getD .missing
      (line.run, line.leave world.disk arguments)

end DashboardCheck.Juju
