import DashboardCheck.Proofs.Command.Run
import DashboardCheck.Proofs.Juju.Answers
import DashboardCheck.Proofs.Replay

/-!
# An orchestrator that cannot be reached

What a command does outside of scenarios ends at the first call that fails. If the tool could not be
started or did not end in time, the process says that the orchestrator cannot be reached, with one
exception: where the certificate was to be copied from a unit, it says that there is trouble with a
file.
-/
namespace DashboardCheck

open Program (FailsFast)

def Call.IsCopy : Call → Prop
  | .copy .. => True
  | _ => False

/-- The error of a check that ends at a call. A copy that fails counts as a missing certificate. -/
def CheckError.ofCall : Call → OrchestratorError → CheckError
  | .copy unit remotePath _, e => .certificate remotePath s!"copy from {unit}: {e.message}"
  | _, e => .orchestrator e

def CommandError.ofCall (call : Call) (e : OrchestratorError) : CommandError :=
  .ofAccess (.ofCall call e)

theorem CheckError.ofCall_of_not_isCopy {call : Call} (h : ¬ call.IsCopy) (e : OrchestratorError) :
    ofCall call e = .orchestrator e := by
  cases call with
  | copy => exact absurd trivial h
  | _ => rfl

/-- All other calls tell that the model is out of reach. -/
theorem CommandError.ofCall_of_not_isCopy {call : Call} {e : OrchestratorError}
    (h : ¬ call.IsCopy) (hlost : e.isUnreachable = true) :
    ofCall call e = .unreachable e.message := by
  rw [ofCall, CheckError.ofCall_of_not_isCopy h, ofAccess, if_pos hlost]

theorem consult_failsFast {call : Call} (h : ¬ call.IsCopy) :
    FailsFast CheckError.ofCall (consult call) :=
  Program.failsFast_ask (CheckError.ofCall_of_not_isCopy h)

theorem Certificate.ofFile_failsFast (path : String) :
    FailsFast CheckError.ofCall (ofFile path) :=
  (Program.failsFast_readFile path _).bind fun _ => Program.failsFast_ofExcept _

theorem Certificate.ofUnit_failsFast (application remotePath : String) :
    FailsFast CheckError.ofCall (ofUnit application remotePath) := by
  rw [ofUnit]
  refine (consult_failsFast id).bind fun units => ?_
  cases units with
  | nil => exact Program.failsFast_throw _
  | cons unit rest =>
    refine (Program.failsFast_makeTemp .directory CheckError.file).bind fun directory => ?_
    have hcopy : FailsFast CheckError.ofCall
        ((Program.ask (.copy unit remotePath (directory ++ "/" ++ copyName remotePath))).mapError
          fun e => .certificate remotePath s!"copy from {unit}: {e.message}") :=
      Program.failsFast_ask fun _ => rfl
    exact hcopy.bind fun _ => (ofFile_failsFast _).after_log

theorem Certificate.resolve_failsFast (dashboard : Config.Dashboard) :
    FailsFast CheckError.ofCall (resolve dashboard) :=
  .ite (ofFile_failsFast _).after_log (ofUnit_failsFast _ _)

namespace Context

theorem build_failsFast (config : Config) : FailsFast CheckError.ofCall (build config) := by
  refine .after_log ((Certificate.resolve_failsFast config.dashboard).bind fun ca => ?_)
  exact (Program.failsFast_ofExcept _).bind fun _ => (Program.failsFast_pure _).after_log

variable (ctx : Context)

theorem probe_failsFast (unit : String) : FailsFast CheckError.ofCall (ctx.probe unit) := by
  refine (consult_failsFast id).bind fun address => ?_
  exact (ctx.http.send_failsFast _ _).bind fun _ => Program.failsFast_pure _

theorem probeAll_failsFast (units : List String) :
    FailsFast CheckError.ofCall (ctx.probeAll units) := by
  induction units with
  | nil => exact Program.failsFast_pure _
  | cons unit rest ih =>
    refine (ctx.probe_failsFast unit).bind fun _ => .after_log ?_
    exact ih.bind fun _ => Program.failsFast_pure _

theorem probeUnits_failsFast : FailsFast CheckError.ofCall ctx.probeUnits := by
  refine (consult_failsFast id).bind fun units => ?_
  exact (ctx.probeAll_failsFast units).bind fun _ => Program.failsFast_pure _

end Context

namespace Command

/-- What a command does outside of scenarios, as far as it uses the orchestrator. -/
def outside (config : Config) : Command → Program CommandError Unit
  | .run _ => do
    let _ ← (Context.build config).mapError .ofAccess
    return ()
  | .probe => do
    let _ ← probeUnits config
    return ()
  | .addUser username role => do
    let _ ← makeUser config username role
    return ()
  | .validate => return ()
  | .display _ => return ()

theorem probeUnits_failsFast (config : Config) :
    FailsFast CommandError.ofCall (probeUnits config) := by
  refine ((Context.build_failsFast config).mapError CommandError.ofAccess).bind fun ctx => ?_
  exact (ctx.probeUnits_failsFast.mapError CommandError.ofAccess).bind fun _ =>
    (Program.failsFast_pure _).after_log

/-- A given name is taken as it is. -/
theorem makeUser_some (config : Config) (name : String) (role : Option String) :
    makeUser config (some name) role =
      (pure name >>= fun name => makeNamed config name (role.getD config.dashboard.userRole)) :=
  rfl

/-- Without a given name one is made up. -/
theorem makeUser_none (config : Config) (role : Option String) :
    makeUser config none role =
      (randomUsername config.dashboard.usernamePrefix >>= fun name =>
        makeNamed config name (role.getD config.dashboard.userRole)) :=
  rfl

theorem makeNamed_failsFast (config : Config) (name role : String) :
    FailsFast CommandError.ofCall (makeNamed config name role) := by
  have hcall : FailsFast CheckError.ofCall
      (createUser config.dashboard.application name role) :=
    (consult_failsFast id).bind fun _ => (Program.failsFast_pure _).after_log
  refine (hcall.mapError CommandError.ofAccess).bind fun outcome => ?_
  exact (Program.failsFast_ofExcept _).bind fun _ => (Program.failsFast_pure _).after_log

theorem makeUser_failsFast (config : Config) (username role : Option String) :
    FailsFast CommandError.ofCall (makeUser config username role) := by
  cases username with
  | some name =>
    rw [makeUser_some]
    exact (Program.failsFast_pure name).bind fun name => makeNamed_failsFast config name _
  | none =>
    have hname : FailsFast CommandError.ofCall
        (randomUsername config.dashboard.usernamePrefix) :=
      Program.failsFast_freshName.bind fun _ => Program.failsFast_pure _
    rw [makeUser_none]
    exact hname.bind fun name => makeNamed_failsFast config name _

theorem outside_failsFast (config : Config) (command : Command) :
    FailsFast CommandError.ofCall (outside config command) := by
  cases command with
  | run only =>
    exact ((Context.build_failsFast config).mapError CommandError.ofAccess).bind fun _ =>
      Program.failsFast_pure _
  | probe => exact (probeUnits_failsFast config).bind fun _ => Program.failsFast_pure _
  | addUser username role =>
    exact (makeUser_failsFast config username role).bind fun _ => Program.failsFast_pure _
  | validate => exact Program.failsFast_pure _
  | display part => exact Program.failsFast_pure _

end Command

namespace Juju

/-- A run that says nothing: the tool could not be started, or it did not end in time. -/
def Run.IsLost : Run → Prop
  | .finished .. => False
  | _ => True

variable {client : Client} {host : Host} {world : World} {call : Call}

/-- Without a run that says something, the answer is that the orchestrator cannot be reached. -/
theorem Client.orchestrator_lost (h : needsRun call = true)
    (hlost : (host world client.binary (client.arguments (invocation call))).1.IsLost) :
    ∃ e, (client.orchestrator host world call).1 = .error e ∧ e.isUnreachable = true := by
  rw [Client.orchestrator_run h]
  dsimp only
  generalize (host world client.binary (client.arguments (invocation call))).1 = run at hlost
  cases run with
  | finished code stdout stderr => exact absurd hlost id
  | timedOut => exact ⟨_, rfl, rfl⟩
  | notStarted reason => exact ⟨_, rfl, rfl⟩

end Juju

/-- A process ended with the code and the words for an orchestrator that cannot be reached. -/
def Exit.TellsUnreachable (exit : Exit) (colour : Bool) : Prop :=
  exit.code = 3 ∧ ∃ reason, exit.stderr =
    Text.styled colour [.bold, .red] "error:" ++ (" model not reachable: " ++ reason)

/-- A process ended with the code for trouble with files, and tells of the file that could not be
copied. -/
def Exit.TellsCopy (exit : Exit) (colour : Bool) (unit remotePath : String) : Prop :=
  exit.code = 10 ∧ ∃ reason, exit.stderr =
    Text.styled colour [.bold, .red] "error:" ++
      (" io error: certificate '" ++ remotePath ++ "': copy from " ++ unit ++ ": " ++ reason)

namespace Exit

variable (format : Format) (colour : Bool)

theorem tellsUnreachable_of_unreachable (reason : String) :
    (ofResult format colour (.error (.unreachable reason))).TellsUnreachable colour := by
  refine ⟨rfl, reason ++ "\n", ?_⟩
  have hline : (ofResult format colour (.error (.unreachable reason))).stderr =
      Text.styled colour [.bold, .red] "error:" ++
        (" " ++ (CommandError.unreachable reason).message ++ "\n") := rfl
  have hmessage : (CommandError.unreachable reason).message = "model not reachable: " ++ reason :=
    rfl
  have hhead : " model not reachable: " = " " ++ "model not reachable: " := rfl
  simp only [hline, hmessage, hhead, String.append_assoc]

/-- A failed copy is told as such even where the orchestrator could not be driven. -/
theorem tellsCopy_of_copy (unit remotePath localPath : String) (e : OrchestratorError) :
    (ofResult format colour (.error (.ofCall (.copy unit remotePath localPath) e))).TellsCopy
      colour unit remotePath := by
  refine ⟨rfl, e.message ++ "\n", ?_⟩
  have hline : (ofResult format colour
      (.error (.ofCall (.copy unit remotePath localPath) e))).stderr =
        Text.styled colour [.bold, .red] "error:" ++
          (" " ++ (CommandError.ofCall (.copy unit remotePath localPath) e).message ++ "\n") := rfl
  have hmessage : (CommandError.ofCall (.copy unit remotePath localPath) e).message =
      "io error: " ++ ("certificate '" ++ remotePath ++ "': " ++
        ("copy from " ++ unit ++ ": " ++ e.message)) := rfl
  have hhead : " io error: certificate '" = " " ++ ("io error: " ++ "certificate '") := rfl
  have hmiddle : "': copy from " = "': " ++ "copy from " := rfl
  simp only [hline, hmessage, hhead, hmiddle, String.append_assoc]

theorem not_tellsUnreachable_of_tellsCopy {exit : Exit} {unit remotePath : String}
    (h : exit.TellsCopy colour unit remotePath) : ¬ exit.TellsUnreachable colour := by
  intro hlost
  have hcode : (10 : Nat) = 3 := h.1.symm.trans hlost.1
  exact absurd hcode (by decide)

end Exit

namespace Program

variable {ε α : Type} {p : Program ε α} {setting : Setting} {world finish : World} {e : ε}

/-- A failure is not lost where the value is thrown away. -/
theorem start_error_of_then_nothing
    (h : (do let _ ← p; return () : Program ε Unit).start setting world = (.error e, finish)) :
    p.start setting world = (.error e, finish) := by
  rw [start_bind] at h
  rcases hstart : p.start setting world with ⟨result, after⟩
  rw [hstart] at h
  cases result with
  | ok a => simp at h
  | error e' => simpa using h

end Program

namespace CommandLine

variable {arguments : List String} {env : Environment} {host : Juju.Client → Juju.Host}
  {setting : Setting} {world finish : World} {line : CommandLine} {config : Config}

/-- A command that fails outside of scenarios fails the process, and nothing more is done. -/
theorem process_outside_error {e : CommandError}
    (hline : ofArguments arguments = .ok line)
    (hconfig : Config.loadOrDefault world.disk env line.config = .ok config)
    (hnames : ∀ only, line.command = .run only →
      ∀ text ∈ only, ∃ scenario : Scenario, scenario.name = Scenario.normalName text)
    (h : (Command.outside config line.command).start ((Juju.Client.ofConfig config).inside
      (host (Juju.Client.ofConfig config)) setting) world = (.error e, finish)) :
    process arguments env host setting world =
      (.ofResult line.output (wantsColour env) (.error e), finish) := by
  rw [process_of_line env host setting world hline, execute]
  cases hcommand : line.command with
  | run only =>
    rw [hcommand, Command.outside] at h
    have hknown : ∀ text ∈ only, Scenario.ofName? text ≠ none :=
      fun text htext => Scenario.ofName?_ne_none_of_name (hnames only hcommand text htext)
    -- outside of scenarios a run does nothing but build its context
    have hbuild := Program.start_error_of_then_nothing h
    rw [Program.start_mapError] at hbuild
    rcases hstart : (Context.build config).start _ world with ⟨result, after⟩
    rw [hstart] at hbuild
    cases result with
    | ok ctx => cases hbuild
    | error e' =>
      cases hbuild
      rw [carryOut_run env host hcommand, start_withConfig host _ setting hconfig,
        Command.start_runScenarios_unbuilt hknown hstart]
  | probe =>
    rw [hcommand, Command.outside] at h
    rw [carryOut_probe env host hcommand, start_withConfig host _ setting hconfig,
      Program.start_error_of_then_nothing h]
  | addUser username role =>
    rw [hcommand, Command.outside] at h
    rw [carryOut_addUser env host hcommand, start_withConfig host _ setting hconfig,
      Program.start_error_of_then_nothing h]
  | validate => simp [hcommand, Command.outside] at h
  | display part => simp [hcommand, Command.outside] at h

/-- Where the tool is lost outside of scenarios, nothing more is done, and the process says that the
orchestrator cannot be reached unless the tool was to copy a file. -/
theorem process_lost (arguments : List String) (env : Environment)
    (host : Juju.Client → Juju.Host) (setting : Setting) (world : World) (line : CommandLine)
    (config : Config) (hline : ofArguments arguments = .ok line)
    (hconfig : Config.loadOrDefault world.disk env line.config = .ok config)
    (hnames : ∀ only, line.command = .run only →
      ∀ text ∈ only, ∃ scenario : Scenario, scenario.name = Scenario.normalName text) :
    let client := Juju.Client.ofConfig config
    let inner := client.inside (host client) setting
    let exit := (process arguments env host setting world).1
    let finish := (process arguments env host setting world).2
    ∀ (earlier later : Trace) (call : Call),
      ((Command.outside config line.command).start inner world).2.trace =
        world.trace ++ (earlier ++ .called call :: later) →
      Juju.needsRun call = true →
      (host client (inner.replay world earlier) client.binary
        (client.arguments (Juju.invocation call))).1.IsLost →
      later = [] ∧ finish.trace = world.trace ++ (earlier ++ [.called call]) ∧
      (exit.TellsUnreachable (wantsColour env) ↔ ¬ call.IsCopy) ∧
      ∀ unit remotePath localPath, call = .copy unit remotePath localPath →
        exit.TellsCopy (wantsColour env) unit remotePath := by
  intro client inner exit finish earlier later call hcalled hneeds hlost
  obtain ⟨events, hreplay, hfails⟩ :=
    Command.outside_failsFast config line.command inner world
  obtain rfl : events = earlier ++ .called call :: later := by
    rw [hreplay, Setting.replay_trace] at hcalled
    exact List.append_cancel_left hcalled
  obtain ⟨e, hanswer, hunreachable⟩ := Juju.Client.orchestrator_lost hneeds hlost
  obtain ⟨rfl, hresult⟩ := hfails earlier call later e rfl hanswer
  have hprocess : process arguments env host setting world =
      (.ofResult line.output (wantsColour env) (.error (.ofCall call e)),
        inner.replay world (earlier ++ [.called call])) :=
    process_outside_error hline hconfig hnames (Prod.ext hresult hreplay)
  have hcopy : ∀ unit remotePath localPath, call = .copy unit remotePath localPath →
      exit.TellsCopy (wantsColour env) unit remotePath := by
    rintro unit remotePath localPath rfl
    simp only [exit, hprocess]
    exact Exit.tellsCopy_of_copy line.output (wantsColour env) unit remotePath localPath e
  refine ⟨rfl, by simp only [finish, hprocess, Setting.replay_trace], ⟨?_, ?_⟩, hcopy⟩
  · intro htells hiscopy
    cases call with
    | copy unit remotePath localPath =>
      exact Exit.not_tellsUnreachable_of_tellsCopy _ (hcopy unit remotePath localPath rfl) htells
    | _ => exact hiscopy
  · intro hnot
    simp only [exit, hprocess, CommandError.ofCall_of_not_isCopy hnot hunreachable]
    exact Exit.tellsUnreachable_of_unreachable line.output (wantsColour env) e.message

def bareWorld : World := ⟨[], .ofFiles ["work"] []⟩

/-- Without a tool, looking at the units ends at the first call. -/
theorem process_lost_probe :
    (process ["probe"] [] (fun _ => bareHost) offline bareWorld).1.TellsUnreachable false := by
  have hend := process_lost ["probe"] [] (fun _ => bareHost) offline bareWorld
    ⟨"dashprobe.toml", none, .text, .probe⟩ Config.default (by decide +kernel) (by decide +kernel)
    (by simp) [] [] (.units "ceph-dashboard") (by decide +kernel) rfl trivial
  exact hend.2.2.1.mpr id

def oneUnitStatus : String :=
  "\x7b\"applications\":\x7b\"ceph-dashboard\":" ++
    "\x7b\"units\":\x7b\"ceph-dashboard/0\":\x7b\x7d\x7d\x7d\x7d\x7d"

/-- A host on which the tool prints this status but does not end where it is to copy a file. -/
def stuckHost : Juju.Host := fun world _ arguments =>
  (if arguments.head? = some "scp" then .timedOut
    else .finished (some 0) (Text.encode oneUnitStatus) [], world.disk)

/-- A copy that does not end is outside of scenarios, and yet the process does not say that the
orchestrator cannot be reached. -/
theorem process_stuck_copy :
    let client := Juju.Client.ofConfig Config.default
    let inner := client.inside stuckHost offline
    let copy := Call.copy "ceph-dashboard/0" Config.default.dashboard.remoteCaCert
      "/vault_ca_cert_dashboard.crt"
    ∃ earlier : Trace,
      ((Command.outside Config.default .probe).start inner bareWorld).2.trace =
        bareWorld.trace ++ (earlier ++ [.called copy]) ∧
      (stuckHost (inner.replay bareWorld earlier) client.binary
        (client.arguments (Juju.invocation copy))).1.IsLost ∧
      ¬ (process ["probe"] [] (fun _ => stuckHost) offline bareWorld).1.TellsUnreachable false := by
  intro client inner copy
  refine ⟨[.called (.units "ceph-dashboard"), .made "" .directory], by decide +kernel, trivial, ?_⟩
  intro htells
  have hcode : (process ["probe"] [] (fun _ => stuckHost) offline bareWorld).1.code = 10 := by
    decide +kernel
  exact absurd (htells.1.symm.trans hcode) (by decide)

end CommandLine

end DashboardCheck
