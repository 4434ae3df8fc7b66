import DashboardCheck.Config.Basic
import DashboardCheck.Config.Error
import DashboardCheck.Json.Reading
import DashboardCheck.Toml.Reading

/-!
Reading a configuration from a document. Sections and settings that are not given have their
defaults; what is not known is passed over.
-/
namespace DashboardCheck.Config

open Document

def Setting.field (setting : Setting) : Shape.Field Config :=
  match setting.slot with
  | .text _ put => .withDefault setting.name Shape.text put
  | .number width _ put =>
    .withDefault setting.name (Shape.natural width.limit width.typeName) put

/-- A section as a record. Settings of other sections keep their defaults. -/
def Part.record (part : Part) : Shape.Record Config :=
  ⟨part.typeName, part.settings.map Setting.field, default⟩

def record : Shape.Record Config where
  name := "DashprobeConfig"
  fields := Part.all.map fun part => .withDefault part.name part.record.shape part.copy
  start := default

def parse (text : String) : Except ConfigError Config :=
  (Toml.read record.shape text).mapError fun e => .parseFailed e.message

def ofJson (value : Json.Value) : Except Complaint Config :=
  value.read record.shape

end DashboardCheck.Config
