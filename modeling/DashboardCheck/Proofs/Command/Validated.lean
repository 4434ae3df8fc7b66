import DashboardCheck.Command.Logging
import DashboardCheck.Proofs.Check.Addresses
import DashboardCheck.Proofs.Command.Unreachable

/-!
# What validation is good for

The rules are checked once, when the configuration is loaded. After that some steps can no longer
fail, and others cannot go beyond certain bounds, although nothing is checked again: the log has a
format, single sign-on has an oldest release, requests go to addresses, copies have a path on the
unit, and waiting comes to an end.
-/
namespace DashboardCheck

open Program (Abides Any)

namespace Command

variable {config : Config} (hvalid : config.IsValid) (hwidths : config.InWidths)

include hvalid hwidths

theorem probeUnits_abides : Abides config.Allows Any Any (probeUnits config) := by
  have hbuild := Context.build_follows hvalid hwidths
  refine (hbuild.mapError fun _ _ => trivial).bind fun ctx hsound => ?_
  have hprobe : Abides config.Allows Any Any
      ((ctx.probeUnits).mapError CommandError.ofAccess) :=
    (Context.probeUnits_follows hsound).mapError fun _ _ => trivial
  exact hprobe.bind fun topology _ => Program.abides_pure trivial

theorem runScenarios_abides (only : List String) :
    Abides config.Allows Any Any (runScenarios config only) := by
  obtain ⟨minimum, hrelease⟩ := hvalid.release
  refine (Program.abides_ofExcept (Program.expected_any _)).bind fun _ _ => ?_
  have hbuild := Context.build_follows hvalid hwidths
  refine (hbuild.mapError fun _ _ => trivial).bind fun ctx hsound => ?_
  have hrun : Abides config.Allows Any Any ((ctx.run only).mapError CommandError.ofCheck) :=
    (Context.run_follows hsound hrelease only).mapError fun _ _ => trivial
  exact hrun.bind fun report _ => Program.abides_pure trivial

omit hvalid hwidths in
theorem makeUser_abides (username role : Option String) :
    Abides config.Allows Any Any (makeUser config username role) := by
  have hnamed : ∀ name role, Abides config.Allows Any Any (makeNamed config name role) := by
    intro name role
    have hcreate : Abides config.Allows Any Any
        ((createUser config.dashboard.application name role).mapError CommandError.ofAccess) :=
      (createUser_follows _ _ _).mapError fun _ _ => trivial
    refine hcreate.bind fun outcome _ => ?_
    exact (Program.abides_ofExcept (Program.expected_any _)).bind fun _ _ =>
      Program.abides_pure trivial
  cases username with
  | some name =>
    rw [makeUser_some]
    have hname : Abides config.Allows Any Any (pure name : Program CommandError String) :=
      Program.abides_pure trivial
    exact hname.bind fun name _ => hnamed name _
  | none =>
    have hname : Abides config.Allows Any Any
        (randomUsername config.dashboard.usernamePrefix : Program CommandError String) :=
      (Program.abides_freshName fun _ _ => trivial).bind fun _ _ => Program.abides_pure trivial
    rw [makeUser_none]
    exact hname.bind fun name _ => hnamed name _

end Command

/-- A format that the rules allow is one of the log. -/
theorem Logging.ofGeneral_of_known {general : Config.General}
    (h : general.logFormat ∈ Config.logFormats) : ∃ log, ofGeneral general = .ok log := by
  obtain ⟨level, format⟩ := general
  obtain rfl | rfl : format = "json" ∨ format = "pretty" := by simpa [Config.logFormats] using h
  · exact ⟨⟨level, .json⟩, rfl⟩
  · exact ⟨⟨level, .pretty⟩, rfl⟩

namespace CommandLine

variable {line : CommandLine} {env : Environment} {disk : Disk}

/-- The log of a process is set up, be there a configuration or not. -/
theorem logging_ok (line : CommandLine) (env : Environment) (disk : Disk) :
    ∃ log, line.logging env disk = .ok log := by
  refine Logging.ofGeneral_of_known ?_
  cases hload : Config.loadOrDefault disk env line.config with
  | ok config => exact (Config.isLoaded_of_loadOrDefault hload).isValid.logFormat
  | error e =>
    have hdefault : Config.default.general.logFormat ∈ Config.logFormats := by decide
    exact hdefault

/-- So setting it up changes nothing. -/
theorem launch_eq_process (arguments : List String) (env : Environment)
    (host : Juju.Client → Juju.Host) (setting : Setting) (world : World) (sink : Sink) :
    launch arguments env host setting world sink =
      process arguments env host setting world sink := by
  rw [launch, process]
  cases ofArguments arguments with
  | error refusal => rfl
  | ok line =>
    obtain ⟨log, hlog⟩ := logging_ok line env world.disk
    dsimp only
    rw [hlog]

end CommandLine

/-- The orchestrator has no say in where answers lead. -/
theorem allows_of_inside {config : Config} {client : Juju.Client} {host : Juju.Host}
    {setting : Setting} {event : Event} (h : config.Allows (client.inside host setting) event) :
    config.Allows setting event := by
  cases event with
  | sent request =>
    obtain ⟨url, haddress, hreaches⟩ := h
    refine ⟨url, haddress, ?_⟩
    clear haddress
    generalize request.url = target at hreaches
    induction hreaches with
    | start htarget => exact .start htarget
    | moved _ hnet hnext ih => exact ih.moved hnet hnext
  | called call => cases call <;> exact h
  | _ => exact h

/-- What a configuration is good for, once it was loaded. -/
structure Config.Suffices (c : Config) : Prop where
  /-- The attempts are those that were asked for, and there are not too many of them. -/
  attempts : (Http.RetryPolicy.ofConfig c.retry).maxAttempts = c.retry.maxAttempts ∧
    1 ≤ c.retry.maxAttempts ∧ c.retry.maxAttempts ≤ 100
  /-- The bounds of a wait are in order, and it has an end. -/
  waits : (Http.RetryPolicy.ofConfig c.retry).minWait.nanos ≤
      (Http.RetryPolicy.ofConfig c.retry).maxWait.nanos ∧
    (Http.RetryPolicy.ofConfig c.retry).maxWait.nanos ≤ (Duration.ofSecs 600).nanos
  /-- All waits of one request together have an end, whatever the network does. -/
  backoff : ∀ (client : Http.Client), client.policy = .ofConfig c.retry →
    ∀ order url setting world, ∃ events : Trace,
      ((client.send order url).start setting world).2 = world.after events ∧
      events.waiting ≤
        (c.retry.maxAttempts - 1) * (Http.RetryPolicy.ofConfig c.retry).maxWait.nanos
  /-- The oldest release is one, so the check of single sign-on asks for the deployed one. -/
  release : (∃ minimum, Release.parse c.saml.minRelease = .ok minimum) ∧
    ∀ setting world ctx built, (Context.build c).start setting world = (.ok ctx, built) →
      ctx.http.policy = .ofConfig c.retry ∧
      Program.OpensWith (.called (.settings c.saml.releaseApplication)) ctx.checkSaml
  /-- The log is set up, with any level. -/
  logging : ∀ line : CommandLine, ∃ log, Logging.ofGeneral (line.general (.ok c)) = .ok log
  /-- Whatever the address of a unit is, that of its dashboard is one of the web, with a port, and
  so is every address for which a scenario fails to get a response. -/
  addresses : ∀ setting world ctx built,
    (Context.build c).start setting world = (.ok ctx, built) →
      (∀ address, IsBase (ctx.unitUrl address)) ∧
      ∀ scenario e, ((ctx.carryOut scenario).start setting built).1 = .error e → e.AtAddress
  /-- All that a process does is allowed: its requests go to where such addresses lead, its waits
  are not too long, and what it copies has a path. -/
  process : ∀ arguments env host setting world line,
    CommandLine.ofArguments arguments = .ok line →
    loadOrDefault world.disk env line.config = .ok c → ∃ events : Trace,
      (CommandLine.launch arguments env host setting world).2.trace = world.trace ++ events ∧
      ∀ event ∈ events, c.Allows setting event

/-- A process does nothing that is not allowed. -/
theorem CommandLine.launch_allowed {c : Config} (hvalid : c.IsValid) (hwidths : c.InWidths)
    (arguments : List String) (env : Environment) (host : Juju.Client → Juju.Host)
    (setting : Setting) (world : World) (line : CommandLine)
    (hline : ofArguments arguments = .ok line)
    (hload : Config.loadOrDefault world.disk env line.config = .ok c) : ∃ events : Trace,
      (launch arguments env host setting world).2.trace = world.trace ++ events ∧
      ∀ event ∈ events, c.Allows setting event := by
  have hinner : ∀ act : Config → Program CommandError Conclusion,
      Abides c.Allows Any Any (act c) → ∃ events : Trace,
        ((line.withConfig env host act).start setting world).2.trace = world.trace ++ events ∧
        ∀ event ∈ events, c.Allows setting event := by
    intro act hact
    let client := Juju.Client.ofConfig c
    obtain ⟨events, htrace, hallowed, -⟩ := hact (client.inside (host client) setting) world
    rw [start_withConfig host act setting hload]
    exact ⟨events, htrace, fun event hevent => allows_of_inside (hallowed event hevent)⟩
  rw [launch_eq_process, process_of_line env host setting world hline, execute, carryOut]
  cases line.command with
  | run only => exact hinner _ (Command.runScenarios_abides hvalid hwidths only)
  | probe => exact hinner _ (Command.probeUnits_abides hvalid hwidths)
  | addUser username role => exact hinner _ (Command.makeUser_abides username role)
  | display part =>
    exact hinner (fun config => Program.ofExcept (Command.listing config line.config part))
      (Program.abides_ofExcept (Program.expected_any _))
  | validate => exact ⟨[], by rw [List.append_nil]; rfl, by simp⟩

namespace Config

variable {c : Config}

/-- Waits are in seconds that the rules bound. -/
theorem IsValid.waits_le (h : c.IsValid) :
    (Http.RetryPolicy.ofConfig c.retry).minWait.nanos ≤
        (Http.RetryPolicy.ofConfig c.retry).maxWait.nanos ∧
      (Http.RetryPolicy.ofConfig c.retry).maxWait.nanos ≤ (Duration.ofSecs 600).nanos := by
  have hlongest : c.retry.maxWaitSecs ≤ 600 := h.longest
  exact ⟨Nat.mul_le_mul_right _ h.waits, Nat.mul_le_mul_right _ hlongest⟩

theorem IsValid.attempts_eq (h : c.IsValid) :
    (Http.RetryPolicy.ofConfig c.retry).maxAttempts = c.retry.maxAttempts :=
  Nat.max_eq_left h.attempts.1

/-- A suite that was set up is set up as the configuration says. -/
theorem isSound_of_build (hvalid : c.IsValid) (hwidths : c.InWidths) {setting : _}
    {world built : World} {ctx : Context}
    (h : (Context.build c).start setting world = (.ok ctx, built)) : ctx.IsSound c := by
  obtain ⟨-, -, -, hsound⟩ := Context.build_follows hvalid hwidths setting world
  rwa [h] at hsound

/-- Every configuration that is loaded is good for all that runs later. -/
theorem loaded_suffices (disk : Disk) (env : Environment) (path : String) (c : Config)
    (h : load disk env path = .ok c ∨ loadOrDefault disk env path = .ok c) : c.Suffices := by
  have hloaded : c.IsLoaded env := by
    rcases h with hload | hload
    · exact isLoaded_of_load hload
    · exact isLoaded_of_loadOrDefault hload
  have hvalid := hloaded.isValid
  obtain ⟨minimum, hrelease⟩ := hvalid.release
  refine
    { attempts := ⟨hvalid.attempts_eq, hvalid.attempts⟩
      waits := hvalid.waits_le
      backoff := ?_
      release := ⟨⟨minimum, hrelease⟩, ?_⟩
      logging := fun line => Logging.ofGeneral_of_known hvalid.logFormat
      addresses := ?_
      process := CommandLine.launch_allowed hvalid hloaded.widths }
  · intro client hpolicy order url setting world
    obtain ⟨events, hrun, hwaiting⟩ := client.send_waiting setting order url world
    rw [hpolicy, hvalid.attempts_eq] at hwaiting
    exact ⟨events, hrun, hwaiting⟩
  · intro setting world ctx built hbuild
    have hsound := isSound_of_build hvalid hloaded.widths hbuild
    exact ⟨hsound.policy, Context.checkSaml_opensWith hsound hrelease⟩
  · intro setting world ctx built hbuild
    have hsound := isSound_of_build hvalid hloaded.widths hbuild
    refine ⟨hsound.base, fun scenario e hfail => ?_⟩
    obtain ⟨-, -, -, hresult⟩ :=
      Context.carryOut_follows hsound hrelease scenario setting built
    rwa [hfail] at hresult

def ownValues : Disk :=
  .ofFiles ["work"] [("dashprobe.toml", .file (Text.encode
    ("[dashboard]\nscheme = \"http\"\nca_cert = \"ca.crt\"\n" ++
      "[retry]\nmax_attempts = 7\nmin_wait_secs = 2\n")))]

/-- An environment that overrides one of them and one of the defaults, and tries to override a third
with what is no number. -/
def otherValues : Environment :=
  [("DASHPROBE_DASHBOARD_PORT", Text.encode "8080"),
   ("DASHPROBE_RETRY_MIN_WAIT_SECS", Text.encode "5"),
   ("DASHPROBE_RETRY_MAX_ATTEMPTS", Text.encode "many")]

def settled : Config :=
  { default with
    dashboard := { default.dashboard with scheme := "http", caCert := "ca.crt", port := 8080 }
    retry := { default.retry with maxAttempts := 7, minWaitSecs := 5 } }

/-- Values of a file and of the environment are loaded, and good for all that runs later. -/
theorem loaded_suffices_settled :
    load ownValues otherValues "dashprobe.toml" = .ok settled ∧ settled.Suffices := by
  have hload : load ownValues otherValues "dashprobe.toml" = .ok settled := by
    decide +kernel
  exact ⟨hload, loaded_suffices _ _ _ settled (.inl hload)⟩

end Config

end DashboardCheck
