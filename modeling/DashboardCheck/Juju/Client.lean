import DashboardCheck.Config.Basic
import DashboardCheck.Orchestrator.Call
import DashboardCheck.Orchestrator.ModelStatus
import DashboardCheck.Orchestrator.Report
import DashboardCheck.Text.Utf8
import DashboardCheck.World.Log

/-!
Asking the orchestrator through its command line tool: the arguments that a call becomes, and the
answer that the end of the tool's run is. A change of no settings needs no run.
-/
namespace DashboardCheck.Juju

open Text

/-- How the tool is run. -/
structure Client where
  /-- The program. -/
  binary : String
  /-- The name of the model; the current one if none. -/
  model : Option String
  timeout : Duration
  deriving DecidableEq, Repr

/-- A client; an empty model name counts as none. -/
def Client.make (binary : String) (model : Option String) (timeout : Duration) : Client :=
  ⟨binary, model.filter fun name => !name.isEmpty, timeout⟩

def Client.ofConfig (c : Config) : Client :=
  .make c.model.jujuBinary (some c.model.model) c.commandTimeout

/-- A run of the tool: its subcommand and the arguments behind that and the model. -/
structure Invocation where
  subcommand : String
  rest : List String
  deriving DecidableEq, Repr

def jsonFormat : List String := ["--format", "json"]

def assignments (settings : Dict String) : List String :=
  settings.map fun (name, value) => name ++ "=" ++ value

def statusInvocation : Invocation := ⟨"status", jsonFormat⟩

def needsRun : Call → Bool
  | .configure _ [] => false
  | _ => true

def invocation : Call → Invocation
  | .units _ => statusInvocation
  | .address _ => statusInvocation
  | .names => statusInvocation
  | .series _ => statusInvocation
  | .action application action params =>
    ⟨"run", leader application :: action :: (assignments params ++ jsonFormat)⟩
  | .command application command =>
    ⟨"exec", ["--unit", leader application] ++ jsonFormat ++ ["--", command]⟩
  | .settings application => ⟨"config", application :: jsonFormat⟩
  | .configure application settings => ⟨"config", application :: assignments settings⟩
  | .copy unit remotePath localPath => ⟨"scp", [unit ++ ":" ++ remotePath, localPath]⟩

def Client.arguments (client : Client) (i : Invocation) : List String :=
  i.subcommand ::
    (match client.model with
      | some name => "-m" :: name :: i.rest
      | none => i.rest)

inductive Run where
  /-- By itself, with a code, or without one if it was killed. -/
  | finished (code : Option Int) (stdout stderr : Bytes)
  /-- It did not end in time. -/
  | timedOut
  /-- It could not be started. -/
  | notStarted (reason : String)
  deriving DecidableEq, Repr

/-- What a run that ended by itself printed, as text. -/
structure Output where
  /-- -1 if it was killed. -/
  code : Int
  stdout : String
  stderr : String
  deriving DecidableEq, Repr

/-- The output of a run, unless it did not end by itself. -/
def Client.output (client : Client) (i : Invocation) : Run → Except OrchestratorError Output
  | .finished code stdout stderr =>
    .ok ⟨code.getD (-1), decodeLossy stdout, decodeLossy stderr⟩
  | .timedOut =>
    .error (.timeout (join " " (client.binary :: client.arguments i)) client.timeout.secs)
  | .notStarted reason => .error (.spawn client.binary reason)

/-- The error of a run that ended with a code other than zero. -/
def failure (command : String) (o : Output) : OrchestratorError :=
  .commandFailed command o.code (trim o.stderr)

def printed (i : Invocation) (o : Output) : Except OrchestratorError String :=
  if o.code = 0 then .ok o.stdout else .error (failure ("juju " ++ i.subcommand) o)

/-- What came of an action. A report counts whatever the code is; without one, the error output may
tell that the action failed. -/
def actionAnswer (application action : String) (o : Output) :
    Except OrchestratorError ActionOutcome :=
  match Report.parseAction o.stdout with
  | .ok outcome => .ok outcome
  | .error e =>
    if o.code = 0 then .error e
    else match Report.actionFailure? o.stderr (leader application) with
      | some outcome => .ok outcome
      | none => .error (failure s!"juju run {leader application} {action}" o)

/-- What came of a command. A report counts whatever the code is. -/
def commandAnswer (command : String) (o : Output) : Except OrchestratorError CommandOutcome :=
  match Report.parseExec o.stdout with
  | .ok outcome => .ok outcome
  | .error e => if o.code = 0 then .error e else .error (failure ("juju exec " ++ command) o)

def statusAnswer {α : Type} (query : ModelStatus → Except OrchestratorError α) (o : Output) :
    Except OrchestratorError α := do
  query (← ModelStatus.parse (← printed statusInvocation o))

def answerOf (o : Output) : (call : Call) → Except OrchestratorError call.Answer
  | .units application => statusAnswer (·.units application) o
  | .address unit => statusAnswer (·.publicAddress unit) o
  | .names => statusAnswer (fun s => .ok s.applicationNames) o
  | .series application => statusAnswer (·.series application) o
  | .action application action _ => actionAnswer application action o
  | .command _ command => commandAnswer command o
  | .settings application => do
    Report.parseSettings (← printed (invocation (.settings application)) o)
  | .configure application settings =>
    (printed (invocation (.configure application settings)) o).map fun _ => ()
  | .copy unit remotePath localPath =>
    (printed (invocation (.copy unit remotePath localPath)) o).map fun _ => ()

def logTarget : String := "dashprobe_model::juju"

/-- The line on an action whose outcome only the error output tells. -/
def fallbackLine (application action : String) (o : Output) : List LogLine :=
  match Report.parseAction o.stdout with
  | .ok _ => []
  | .error _ =>
    if o.code ≠ 0 && (Report.actionFailure? o.stderr (leader application)).isSome then
      [⟨.warn, logTarget, "action failed without a json result",
        [("unit", .text (leader application)), ("action", .text action)]⟩]
    else []

def Client.runLines (client : Client) (run : Run) (call : Call) : List LogLine :=
  let command := join " " (client.binary :: client.arguments (invocation call))
  ⟨.debug, logTarget, "running juju", [("command", .text command)]⟩ ::
    match call, client.output (invocation call) run with
    | .action application action _, .ok o => fallbackLine application action o
    | _, _ => []

def Client.interpret (client : Client) (run : Run) (call : Call) :
    Except OrchestratorError call.Answer := do
  answerOf (← client.output (invocation call) run) call

end DashboardCheck.Juju
