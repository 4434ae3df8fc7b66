import DashboardCheck.Proofs.Command.Validated
import DashboardCheck.Proofs.Config.RoundTrip
import DashboardCheck.Proofs.Text.Strict

/-!
# What `dashprobe config show` prints

The whole configuration is printed as a file that could have been loaded. Put into a file, it loads
as what it was printed from, under the environment that this came from.
-/
namespace DashboardCheck

open Text

/-- A file with the bytes of a text holds the text. -/
theorem Disk.readText_of_read {disk : Disk} {path text : String}
    (h : disk.read path = .ok (encode text)) : disk.readText path = .ok text := by
  rw [readText, h]
  simp only [decode?_encode]

/-- What is printed in place of a configuration that cannot be written. -/
def unwritten (reason : String) : String := "(serialization error: " ++ reason ++ ")"

theorem toList_append_cons {s t u : String} {c : Char} {cs : List Char} (h : s.toList = c :: cs) :
    (s ++ t ++ u).toList = c :: (cs ++ t.toList ++ u.toList) := by
  rw [String.toList_append, String.toList_append, h]
  rfl

/-- A written configuration begins with a bracket of another kind. -/
theorem Config.toToml_ne_unwritten (c : Config) (reason : String) :
    c.toToml ≠ unwritten reason := by
  intro htext
  obtain ⟨behind, hbracket, -⟩ := Config.toList_toToml c
  have hstart : "(serialization error: ".toList = '(' :: "serialization error: ".toList := by decide
  have hparenthesis := (congrArg String.toList htext).trans (toList_append_cons hstart)
  exact absurd (List.cons.inj (hbracket.symm.trans hparenthesis)).1 (by decide)

namespace CommandLine

def configTitle (env : Environment) (path : String) : String :=
  ofLines ["Configuration (source: " ++ styled (wantsColour env) [.bold] path ++ ")", ""]

/-- A configuration that is accepted is printed, and nothing else is done. -/
theorem execute_display {line : CommandLine} {env : Environment} {c : Config} {world : World}
    (host : Juju.Client → Juju.Host) (setting : Setting) (hcommand : line.command = .display none)
    (houtput : line.output = .text)
    (hconfig : Config.loadOrDefault world.disk env line.config = .ok c) :
    line.execute env host setting world =
      (⟨0, configTitle env line.config ++ c.toToml, ""⟩, world) := by
  rw [execute, start_carryOut_display env host setting world hcommand,
    start_withConfig host _ setting hconfig, houtput]
  rfl

/-- The configuration of a process is printed below its title as what it is, never as an excuse: it
is read back in every setting, and as a file it loads as what it was under the same environment. -/
theorem display_faithful {disk : Disk} {env : Environment} {path : String} {c : Config}
    (hconfig : Config.loadOrDefault disk env path = .ok c) :
    (∀ (arguments : List String) (line : CommandLine) (host : Juju.Client → Juju.Host)
      (setting : Setting) (world : World),
      ofArguments arguments = .ok line → line.command = .display none → line.output = .text →
      line.config = path → world.disk = disk →
      launch arguments env host setting world =
        (⟨0, configTitle env path ++ c.toToml, ""⟩, world)) ∧
    (∀ reason, c.toToml ≠ unwritten reason) ∧
    Config.parse c.toToml = .ok c ∧
    ∀ (other : Disk) (place : String), other.read place = .ok (encode c.toToml) →
      Config.loadOrDefault other env place = .ok c := by
  have hloaded := Config.isLoaded_of_loadOrDefault hconfig
  have hparse := Config.parse_toToml hloaded.widths
  refine ⟨?_, c.toToml_ne_unwritten, hparse, ?_⟩
  · intro arguments line host setting world harguments hcommand houtput hpath hdisk
    subst hpath hdisk
    rw [launch_eq_process, process_of_line env host setting world harguments]
    exact execute_display host setting hcommand houtput hconfig
  · intro other place hread
    exact Config.loadOrDefault_of_isLoaded hloaded (Disk.readText_of_read hread) hparse

/-- An environment with a number beyond 63 bits, and with quotes, lines and controls in a text. -/
def oddEnvironment : Environment :=
  [("DASHPROBE_MODEL_COMMAND_TIMEOUT_SECS", encode "18446744073709551615"),
   ("DASHPROBE_MODEL_MODEL", encode "a\n\"'\\\x01")]

def oddConfig : Config :=
  { Config.default with model := ⟨"juju", "a\n\"'\\\x01", Number.max64⟩ }

theorem display_faithful_odd :
    launch ["config", "show"] oddEnvironment (fun _ => bareHost) offline bareWorld =
        (⟨0, configTitle oddEnvironment "dashprobe.toml" ++ oddConfig.toToml, ""⟩, bareWorld) ∧
      Config.parse oddConfig.toToml = .ok oddConfig := by
  have hconfig : Config.loadOrDefault bareWorld.disk oddEnvironment "dashprobe.toml" =
      .ok oddConfig := by
    decide +kernel
  obtain ⟨hlaunch, -, hparse, -⟩ := display_faithful hconfig
  refine ⟨?_, hparse⟩
  exact hlaunch ["config", "show"] ⟨"dashprobe.toml", none, .text, .display none⟩
    (fun _ => bareHost) offline bareWorld (by decide +kernel) rfl rfl rfl rfl

end CommandLine

end DashboardCheck
