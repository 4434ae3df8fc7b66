import DashboardCheck.Config.Basic
import DashboardCheck.Json.Value
import DashboardCheck.Toml.Writer

/-!
Writing a configuration, as JSON and as TOML. Everything is written, defaults too.
-/
namespace DashboardCheck.Config

def Setting.toJson (setting : Setting) (c : Config) : Json.Value :=
  match setting.slot with
  | .text get _ => .string (get c)
  | .number _ get _ => .integer (get c)

def Part.toJson (part : Part) (c : Config) : Json.Value :=
  .ofMembers (part.settings.map fun setting => (setting.name, setting.toJson c))

def toJson (c : Config) : Json.Value :=
  .ofMembers (Part.all.map fun part => (part.name, part.toJson c))

def Setting.line (setting : Setting) (c : Config) : List Char :=
  Toml.writeEntry setting.name
    (match setting.slot with
      | .text get _ => Toml.writeString (get c)
      | .number _ get _ => Number.digitsOf (get c))

def Part.lines (part : Part) (c : Config) : List Char :=
  part.settings.flatMap fun setting => setting.line c

def Part.toToml (part : Part) (c : Config) : String :=
  String.ofList (part.lines c)

def sectionLines (c : Config) : List Part → List Char
  | [] => []
  | [part] => Toml.writeHeader part.name ++ part.lines c
  | part :: rest => Toml.writeHeader part.name ++ part.lines c ++ '\n' :: sectionLines c rest

def toToml (c : Config) : String :=
  String.ofList (sectionLines c Part.all)

end DashboardCheck.Config
