import DashboardCheck.Proofs.Command.Run

/-!
# What validation tells of the other commands

A configuration is loaded in two ways: validation wants its file to be there, and the other commands
make do without. Where there is a file, be it good or bad, the two ways are one, so what validation
reports is what the other commands end with. Where there is none, the other commands go on as with
an empty file.
-/
namespace DashboardCheck

namespace Config

variable {disk disk' : Disk} {env : Environment} {path path' : String} {e : LoadError}

/-- No text is a file that is not there. -/
theorem parse_ne_fileNotFound (text missing : String) :
    parse text ≠ .error (.fileNotFound missing) := by
  intro h
  rw [parse] at h
  cases hread : Toml.read record.shape text with
  | ok c =>
    rw [hread] at h
    cases h
  | error failure =>
    rw [hread] at h
    cases h

theorem ofFile_missing (h : disk.readText path = .error .notFound) :
    ofFile disk path = .error (.config (.fileNotFound path)) := by
  rw [ofFile, h]

/-- With any other state of the path, the two ways are one. -/
theorem loadOrDefault_eq_load (h : disk.readText path ≠ .error .notFound) :
    loadOrDefault disk env path = load disk env path := by
  have hfound : ∀ missing, ofFile disk path ≠ .error (.config (.fileNotFound missing)) := by
    intro missing hmissing
    rw [ofFile] at hmissing
    split at hmissing
    · next hread => exact h hread
    · cases hmissing
    · next text hread =>
      cases hparse : parse text with
      | ok c =>
        rw [hparse] at hmissing
        cases hmissing
      | error fault =>
        rw [hparse] at hmissing
        cases hmissing
        exact parse_ne_fileNotFound text missing hparse
  rw [loadOrDefault, load]
  cases hfile : ofFile disk path with
  | ok c => rfl
  | error e =>
    cases e with
    | file e => rfl
    | config fault =>
      cases fault with
      | fileNotFound missing => exact absurd hfile (hfound missing)
      | _ => rfl

theorem parse_empty : parse "" = .ok default := by
  decide +kernel

/-- Without a file the configuration is loaded as from an empty one. -/
theorem loadOrDefault_missing (h : disk.readText path = .error .notFound)
    (h' : disk'.readText path' = .ok "") :
    loadOrDefault disk env path = loadOrDefault disk' env path' := by
  have hempty : ofFile disk' path' = .ok default := by
    rw [ofFile, h']
    dsimp only
    rw [parse_empty]
    rfl
  rw [loadOrDefault, loadOrDefault, ofFile_missing h, hempty]

end Config

def Config.LoadError.code : Config.LoadError → Nat
  | .config _ => 2
  | .file _ => 10

theorem CommandError.code_run_toRunError (e : Config.LoadError) :
    (CommandError.run e.toRunError).code = e.code := by
  cases e <;> rfl

/-- A process printed no report, and gave this reason for its failure. -/
structure Exit.TellsReason (exit : Exit) (colour : Bool) (reason : String) : Prop where
  stdout : exit.stdout = ""
  stderr : exit.stderr = Text.styled colour [.bold, .red] "error:" ++ (" " ++ reason ++ "\n")

namespace CommandLine

variable {arguments : List String} {env : Environment} {world : World} {line : CommandLine}
  {e : Config.LoadError}

/-- A configuration that cannot be loaded is the end of every other command, and nothing was
done. -/
theorem process_unconfigured (host : Juju.Client → Juju.Host) (setting : Setting)
    (hline : ofArguments arguments = .ok line)
    (hcommand : line.command ≠ .validate)
    (hconfig : Config.loadOrDefault world.disk env line.config = .error e) :
    process arguments env host setting world =
      (.ofResult line.output (wantsColour env) (.error (.run e.toRunError)), world) := by
  rw [process_of_line env host setting world hline, execute]
  cases hother : line.command with
  | validate => exact absurd hother hcommand
  | display part =>
    rw [start_carryOut_display env host setting world hother,
      start_withConfig_error host _ setting hconfig]
  | _ =>
    rw [carryOut, hother]
    dsimp only
    rw [start_withConfig_error host _ setting hconfig]

/-- A process said that the configuration can be used. -/
structure TellsValid (line : CommandLine) (colour : Bool) (exit : Exit) : Prop where
  code : exit.code = 0
  stdout : exit.stdout =
    (CommandReport.validation ⟨line.config, true, []⟩).render line.output colour

/-- A process said that the configuration cannot be used, and gave this reason alone. -/
structure TellsInvalid (line : CommandLine) (colour : Bool) (exit : Exit) (reason : String) :
    Prop where
  code : exit.code = 2
  stdout : exit.stdout =
    (CommandReport.validation ⟨line.config, false, [reason]⟩).render line.output colour

/-- Validation tells how its own way of loading ends. -/
theorem process_validate (env : Environment) (host : Juju.Client → Juju.Host) (setting : Setting)
    (world : World) (hline : ofArguments arguments = .ok line)
    (hcommand : line.command = .validate) :
    let verdict := (process arguments env host setting world).1
    (∀ config, Config.load world.disk env line.config = .ok config →
      line.TellsValid (wantsColour env) verdict) ∧
    ∀ e, Config.load world.disk env line.config = .error e →
      line.TellsInvalid (wantsColour env) verdict e.toRunError.message := by
  intro verdict
  have hverdict : verdict = .ofResult line.output (wantsColour env)
      (.ok (Command.validation world.disk env line.config)) := by
    simp only [verdict]
    rw [process_of_line env host setting world hline, execute, carryOut, hcommand]
    rfl
  rw [hverdict, Command.validation]
  refine ⟨?_, ?_⟩
  · intro config hload
    rw [hload]
    exact ⟨rfl, rfl⟩
  · intro e hload
    rw [hload]
    exact ⟨rfl, rfl⟩

/-- Where there is something at the path, validation succeeds exactly if the configuration can be
loaded by other commands, and otherwise gives the very reason that they give, who do nothing. Where
there is nothing, validation fails, and other commands go on as with an empty file. -/
theorem process_validation (checking arguments : List String) (env : Environment)
    (host : Juju.Client → Juju.Host) (setting : Setting) (world : World)
    (line other : CommandLine) (hchecking : ofArguments checking = .ok line)
    (hvalidate : line.command = .validate) (harguments : ofArguments arguments = .ok other)
    (hother : other.command ≠ .validate) (hpath : other.config = line.config) :
    let loaded := Config.loadOrDefault world.disk env line.config
    let verdict := (process checking env host setting world).1
    let exit := (process arguments env host setting world).1
    let finish := (process arguments env host setting world).2
    (world.disk.readText line.config ≠ .error .notFound →
      (verdict.code = 0 ↔ ∃ config, loaded = .ok config) ∧
      (∀ config, loaded = .ok config → line.TellsValid (wantsColour env) verdict) ∧
      ∀ e, loaded = .error e → ∃ reason,
        line.TellsInvalid (wantsColour env) verdict reason ∧
        exit.TellsReason (wantsColour env) reason ∧ exit.code = e.code ∧ finish = world) ∧
    (world.disk.readText line.config = .error .notFound →
      verdict.code = 2 ∧ ∀ disk path, disk.readText path = .ok "" →
        Command.configuration world.disk env other.config =
          Command.configuration disk env path) := by
  intro loaded verdict exit finish
  obtain ⟨hvalid, hinvalid⟩ := process_validate env host setting world hchecking hvalidate
  refine ⟨?_, ?_⟩
  · intro hfound
    rw [← Config.loadOrDefault_eq_load hfound] at hvalid hinvalid
    refine ⟨⟨?_, ?_⟩, hvalid, ?_⟩
    · intro hcode
      cases hloaded : loaded with
      | ok config => exact ⟨config, rfl⟩
      | error e => exact absurd (hcode.symm.trans (hinvalid e hloaded).code) (by decide)
    · rintro ⟨config, hloaded⟩
      exact (hvalid config hloaded).code
    · intro e hloaded
      have hprocess := process_unconfigured host setting harguments hother
        (by rw [hpath]; exact hloaded)
      refine ⟨e.toRunError.message, hinvalid e hloaded, ?_, ?_, ?_⟩
      · simp only [exit, hprocess]
        exact ⟨rfl, rfl⟩
      · simp only [exit, hprocess]
        exact CommandError.code_run_toRunError e
      · simp only [finish, hprocess]
  · intro hmissing
    have hload : Config.load world.disk env line.config =
        .error (.config (.fileNotFound line.config)) := by
      rw [Config.load, Config.ofFile_missing hmissing]
      rfl
    refine ⟨(hinvalid _ hload).code, ?_⟩
    intro disk path hempty
    rw [Command.configuration, Command.configuration, hpath,
      Config.loadOrDefault_missing hmissing hempty]

def brokenFile : World := ⟨[], .ofFiles ["work"] [("dashprobe.toml", .file (Text.encode "["))]⟩

/-- Validation finds what keeps a look at the units from being taken. -/
theorem process_validation_broken :
    let run (arguments : List String) := process arguments [] (fun _ => bareHost) offline brokenFile
    ∃ reason, (⟨"dashprobe.toml", none, .text, .validate⟩ : CommandLine).TellsInvalid false
        (run ["config", "validate"]).1 reason ∧
      (run ["probe"]).1.TellsReason false reason ∧ (run ["probe"]).1.code = 2 := by
  intro run
  obtain ⟨hfound, -⟩ := process_validation ["config", "validate"] ["probe"] []
    (fun _ => bareHost) offline brokenFile ⟨"dashprobe.toml", none, .text, .validate⟩
    ⟨"dashprobe.toml", none, .text, .probe⟩ (by decide +kernel) rfl (by decide +kernel) (by decide)
    rfl
  obtain ⟨-, -, hbroken⟩ := hfound (by decide +kernel)
  obtain ⟨reason, hverdict, hexit, hcode, -⟩ :=
    hbroken (.config (.parseFailed "TOML syntax error")) (by decide +kernel)
  exact ⟨reason, hverdict, hexit, hcode⟩

end CommandLine

end DashboardCheck
