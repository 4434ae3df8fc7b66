import DashboardCheck.Config.Basic
import DashboardCheck.Dict
import DashboardCheck.Text.Utf8
import DashboardCheck.World.Log

/-!
Overriding settings by variables of the environment. A variable counts only if it is text, and for a
number only if it writes one that fits; any other leaves the setting as it is.
-/
namespace DashboardCheck

/-- The variables of the environment. Their values need not be texts. -/
abbrev Environment := Dict Text.Bytes

def Environment.text? (env : Environment) (name : String) : Option String :=
  (env.get? name).bind Text.decode?

namespace Config

/-- An ASCII letter in upper case; any other character as it is. -/
def upper (s : String) : String := String.ofList (s.toList.map Char.toUpper)

def Setting.variable (setting : Setting) : String :=
  "DASHPROBE_" ++ upper setting.part.name ++ "_" ++ upper setting.name

def Setting.override (setting : Setting) (env : Environment) (c : Config) : Config :=
  match env.text? setting.variable with
  | none => c
  | some value =>
    match setting.slot with
    | .text _ put => put value c
    | .number width _ put =>
      match Number.natural? width.limit value.toList with
      | some n => put n c
      | none => c

def logTarget : String := "dashprobe_core::config"

def Setting.overrideLine (setting : Setting) (env : Environment) : List LogLine :=
  match setting.slot, env.text? setting.variable with
  | .number width _ _, some value =>
    if (Number.natural? width.limit value.toList).isSome then []
    else [⟨.warn, logTarget, s!"failed to parse {width.typeName} from env var, ignoring",
      [("env_key", .text setting.variable), ("value", .text value)]⟩]
  | _, _ => []

def overrideLines (env : Environment) : List LogLine := settings.flatMap (·.overrideLine env)

def override (env : Environment) (c : Config) : Config :=
  settings.foldl (fun c setting => setting.override env c) c

end Config

end DashboardCheck
