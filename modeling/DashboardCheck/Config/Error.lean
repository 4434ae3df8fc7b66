/-!
Why there is no usable configuration.
-/
namespace DashboardCheck

inductive ConfigError where
  | fileNotFound (path : String)
  /-- The file cannot be understood. -/
  | parseFailed (reason : String)
  /-- A setting has a value that is not allowed. -/
  | invalidValue (field reason : String)
  deriving DecidableEq, Repr

def ConfigError.message : ConfigError → String
  | fileNotFound path => s!"config file not found: {path}"
  | parseFailed reason => s!"failed to parse config: {reason}"
  | invalidValue field reason => s!"invalid config value for '{field}': {reason}"

end DashboardCheck
