import DashboardCheck.Config.Basic
import DashboardCheck.Config.Error
import DashboardCheck.Release.Basic

/-!
Which values the settings may have. The rules are tried in order and the first that is broken is
reported. The main statement says that a configuration is valid exactly when no rule is broken.
-/
namespace DashboardCheck.Config

structure Rule where
  field : String
  /-- What is wrong, if something is. -/
  fault? : Config → Option String

def Rule.oneOf (field : String) (get : Config → String) (allowed : List String) : Rule :=
  ⟨field, fun c =>
    if allowed.contains (get c) then none
    else some ("must be one of: " ++ Text.join ", " allowed)⟩

def Rule.must (field : String) (ok : Config → Bool) (reason : String) : Rule :=
  ⟨field, fun c => if ok c then none else some reason⟩

def maxRetryAttempts : Nat := 100

/-- The longest wait, in seconds, that may be asked for. -/
def maxRetryWaitSecs : Nat := 600

def logLevels : List String := ["trace", "debug", "info", "warn", "error"]

def logFormats : List String := ["json", "pretty"]

def schemes : List String := ["https", "http"]

def rules : List Rule :=
  [.oneOf "general.log_level" (·.general.logLevel) logLevels,
   .oneOf "general.log_format" (·.general.logFormat) logFormats,
   .must "model.juju_binary" (fun c => !c.model.jujuBinary.isEmpty) "must not be empty",
   .must "model.command_timeout_secs" (fun c => c.model.commandTimeoutSecs != 0)
     "must be greater than 0",
   .must "dashboard.application" (fun c => !c.dashboard.application.isEmpty) "must not be empty",
   .oneOf "dashboard.scheme" (·.dashboard.scheme) schemes,
   .must "dashboard.port" (fun c => c.dashboard.port != 0) "must be 1-65535",
   .must "dashboard.remote_ca_cert"
     (fun c => !c.dashboard.caCert.isEmpty || !c.dashboard.remoteCaCert.isEmpty)
     "must be set when dashboard.ca_cert is empty",
   .must "dashboard.user_role" (fun c => !c.dashboard.userRole.isEmpty) "must not be empty",
   .must "retry.max_attempts"
     (fun c => 1 ≤ c.retry.maxAttempts && c.retry.maxAttempts ≤ maxRetryAttempts)
     s!"must be 1-{maxRetryAttempts}",
   .must "retry.min_wait_secs" (fun c => c.retry.minWaitSecs ≤ c.retry.maxWaitSecs)
     "must not exceed retry.max_wait_secs",
   .must "retry.max_wait_secs" (fun c => c.retry.maxWaitSecs ≤ maxRetryWaitSecs)
     s!"must be 0-{maxRetryWaitSecs}",
   .must "saml.release_application" (fun c => !c.saml.releaseApplication.isEmpty)
     "must not be empty",
   ⟨"saml.min_release", fun c =>
     match Release.parse c.saml.minRelease with
     | .ok _ => none
     | .error e => some e.message⟩]

def broken? (c : Config) : List Rule → Option ConfigError
  | [] => none
  | rule :: rest =>
    match rule.fault? c with
    | some reason => some (.invalidValue rule.field reason)
    | none => broken? c rest

/-- Fails with the first broken rule. -/
def validate (c : Config) : Except ConfigError Unit :=
  match broken? c rules with
  | some e => .error e
  | none => .ok ()

theorem broken?_eq_none_iff (c : Config) (rs : List Rule) :
    broken? c rs = none ↔ ∀ rule ∈ rs, rule.fault? c = none := by
  induction rs with
  | nil => simp [broken?]
  | cons rule rest ih =>
    cases h : rule.fault? c <;> simp [broken?, h, ih]

theorem validate_eq_ok_iff (c : Config) :
    validate c = .ok () ↔ ∀ rule ∈ rules, rule.fault? c = none := by
  rw [← broken?_eq_none_iff]
  unfold validate
  cases broken? c rules <;> simp

end DashboardCheck.Config
