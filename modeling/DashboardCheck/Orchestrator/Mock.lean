import DashboardCheck.World.Program

/-!
An orchestrator that lives in memory. It knows what it was given, answers as its handlers say, keeps
settings that are changed, and records actions, commands and changes. A call that fails leaves no
mark.
-/
namespace DashboardCheck

structure ActionCall where
  application : String
  action : String
  params : Dict String
  deriving DecidableEq, Repr

/-- An orchestrator in memory. -/
structure Mock where
  /-- The units of applications with their addresses, in order. -/
  units : Dict (List (String × String))
  /-- Further applications. -/
  applications : List String
  series : Dict String
  /-- Files on units, under the unit, a colon and the path. -/
  files : Dict String
  /-- What comes of an action, in view of the actions before. -/
  onAction : Option (List ActionCall → ActionCall → ActionOutcome)
  /-- What comes of a command on an application, in view of the commands before. -/
  onCommand : Option (List (String × String) → String → String → CommandOutcome)
  settings : Dict (Dict Json.Value)
  actions : List ActionCall
  commands : List (String × String)
  changes : List (String × Dict String)

namespace Mock

def empty : Mock := ⟨[], [], [], [], none, none, [], [], [], []⟩

def withUnits (m : Mock) (application : String) (addresses : List String) : Mock :=
  let units := addresses.zipIdx.map fun (address, n) => (s!"{application}/{n}", address)
  { m with units := Dict.insert application units m.units }

def withApplications (m : Mock) (names : List String) : Mock :=
  { m with applications := m.applications ++ names }

def withSeries (m : Mock) (application series : String) : Mock :=
  { m with series := Dict.insert application series m.series
           applications := m.applications ++ [application] }

/-- Gives an application a setting; this does not add the application. -/
def withSetting (m : Mock) (application name : String) (value : Json.Value) : Mock :=
  let old := (m.settings.get? application).getD []
  { m with settings := Dict.insert application (Dict.insert name value old) m.settings }

def withFile (m : Mock) (unit path content : String) : Mock :=
  { m with files := Dict.insert s!"{unit}:{path}" content m.files }

/-- What comes of making users: each can be made once. -/
def register (earlier : List ActionCall) (call : ActionCall) : ActionOutcome :=
  let user (c : ActionCall) : String := (c.params.get? "username").getD ""
  let unit := call.application ++ "/0"
  if earlier.any fun c => user c == user call then
    ⟨unit, .failed, .object [], some "User already exists"⟩
  else ⟨unit, .completed, .object [("password", .string ("pw-" ++ user call))], none⟩

/-- Outcomes in turn; the last one again and again. -/
def inTurn (first : ActionOutcome) (more : List ActionOutcome) (earlier : List ActionCall)
    (_ : ActionCall) : ActionOutcome :=
  let all := first :: more
  (all[earlier.length]?).getD (all.getLast (by simp [all]))

structure CommandRule where
  contains : String
  code : Int
  stdout : String
  stderr : String
  deriving DecidableEq, Repr

/-- The first rule that fits decides; without one the command ends well. -/
def byRules (rules : List CommandRule) (_ : List (String × String)) (application command : String) :
    CommandOutcome :=
  let unit := application ++ "/0"
  match rules.find? fun rule => Text.occursIn rule.contains.toList command.toList with
  | some rule => ⟨unit, rule.code, rule.stdout, rule.stderr⟩
  | none => ⟨unit, 0, "", ""⟩

def knows (m : Mock) (application : String) : Bool :=
  m.units.holds application || m.applications.contains application

def names (m : Mock) : List String :=
  Dict.names (Dict.ofList ((m.units.names ++ m.applications).map fun name => (name, ())))

/-- The leader of an application: its first unit, or the unit with number 0. -/
def leaderUnit (m : Mock) (application : String) : String :=
  match m.units.get? application with
  | some ((unit, _) :: _) => unit
  | _ => application ++ "/0"

def require {α : Type} (m : Mock) (application : String) (answer : Except OrchestratorError α) :
    Except OrchestratorError α :=
  if m.knows application then answer else .error (.applicationNotFound application)

def address? (m : Mock) (unit : String) : Option String :=
  ((m.units.flatMap Prod.snd).find? fun entry => entry.1 == unit).map Prod.snd

def act (m : Mock) (call : ActionCall) : ActionOutcome :=
  match m.onAction with
  | some handler => handler m.actions call
  | none => ⟨m.leaderUnit call.application, .completed, .object [], none⟩

def execute (m : Mock) (application command : String) : CommandOutcome :=
  match m.onCommand with
  | some handler => handler m.commands application command
  | none => ⟨m.leaderUnit application, 0, "", ""⟩

def file (m : Mock) (unit path : String) : Except OrchestratorError String :=
  match m.files.get? s!"{unit}:{path}" with
  | some content => .ok content
  | none =>
    .error (.commandFailed s!"juju scp {unit}:{path}" 1 s!"{path}: No such file or directory")

/-- The answer to a call. Copying answers here only whether there is something to copy. -/
def answer (m : Mock) : (call : Call) → Except OrchestratorError call.Answer
  | .units application =>
    m.require application (.ok (((m.units.get? application).getD []).map Prod.fst))
  | .address unit =>
    match m.address? unit with
    | some address => .ok address
    | none => .error (.unitNotFound unit)
  | .action application action params =>
    m.require application (.ok (m.act ⟨application, action, params⟩))
  | .command application command => m.require application (.ok (m.execute application command))
  | .names => .ok m.names
  | .settings application =>
    m.require application (.ok ((m.settings.get? application).getD []))
  | .configure application _ => m.require application (.ok ())
  | .series application =>
    m.require application
      (match m.series.get? application with
        | some series => .ok series
        | none => .error (.output "mock status" s!"no series configured for '{application}'"))
  | .copy unit remotePath _ => (m.file unit remotePath).map fun _ => ()

def after (m : Mock) : Call → Mock
  | .action application action params =>
    if m.knows application then
      { m with actions := m.actions ++ [⟨application, action, params⟩] }
    else m
  | .command application command =>
    if m.knows application then { m with commands := m.commands ++ [(application, command)] }
    else m
  | .configure application settings =>
    if m.knows application then
      let old := (m.settings.get? application).getD []
      let new := Dict.overlay old (Dict.mapValues Json.Value.string settings)
      { m with changes := m.changes ++ [(application, settings)]
               settings := Dict.insert application new m.settings }
    else m
  | _ => m

def afterAll (m : Mock) (calls : List Call) : Mock := calls.foldl after m

def copy (m : Mock) (disk : Disk) (unit remotePath localPath : String) :
    Except OrchestratorError Unit × Disk :=
  match m.file unit remotePath with
  | .error e => (.error e, disk)
  | .ok content =>
    match disk.write localPath (Text.encode content) with
    | .error e => (.error (.output "mock scp" e.message), disk)
    | .ok disk => (.ok (), disk)

/-- The orchestrator as programs meet it: it has seen all calls so far. -/
def orchestrator (m : Mock) (world : World) :
    (call : Call) → Except OrchestratorError call.Answer × Disk
  | .copy unit remotePath localPath =>
    (m.afterAll world.trace.calls).copy world.disk unit remotePath localPath
  | call => ((m.afterAll world.trace.calls).answer call, world.disk)

end Mock

end DashboardCheck
