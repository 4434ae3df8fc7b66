import DashboardCheck.Duration

/-!
The configuration: five sections with nineteen settings, each with a default. Every setting is
described once, by its section, its name, what it holds and how it is reached; reading, writing and
overriding are derived from these descriptions.
-/
namespace DashboardCheck

namespace Config

/-- What is logged. -/
structure General where
  logLevel : String
  logFormat : String
  deriving DecidableEq, Repr

/-- How the orchestrator is reached. -/
structure Model where
  /-- The program that is run. -/
  jujuBinary : String
  /-- The name of the model; the current one if empty. -/
  model : String
  commandTimeoutSecs : Nat
  deriving DecidableEq, Repr

structure Dashboard where
  application : String
  scheme : String
  port : Nat
  /-- A local certificate; if empty, the one on a unit is taken. -/
  caCert : String
  /-- The certificate on a unit. -/
  remoteCaCert : String
  /-- The role of the users that are made. -/
  userRole : String
  usernamePrefix : String
  /-- No limit if zero. -/
  requestTimeoutSecs : Nat
  deriving DecidableEq, Repr

/-- How often and when a request is sent again. -/
structure Retry where
  /-- The first attempt counts. -/
  maxAttempts : Nat
  multiplierSecs : Nat
  minWaitSecs : Nat
  maxWaitSecs : Nat
  deriving DecidableEq, Repr

/-- When single sign-on is checked. -/
structure Saml where
  /-- The application whose release decides. -/
  releaseApplication : String
  /-- The oldest release that is checked. -/
  minRelease : String
  deriving DecidableEq, Repr

end Config

structure Config where
  general : Config.General
  model : Config.Model
  dashboard : Config.Dashboard
  retry : Config.Retry
  saml : Config.Saml
  deriving DecidableEq, Repr

namespace Config

/-- The values of settings that are not given. -/
def default : Config where
  general := ⟨"info", "pretty"⟩
  model := ⟨"juju", "", 300⟩
  dashboard :=
    { application := "ceph-dashboard"
      scheme := "https"
      port := 8443
      caCert := ""
      remoteCaCert := "/usr/local/share/ca-certificates/vault_ca_cert_dashboard.crt"
      userRole := "administrator"
      usernamePrefix := "dashprobe-user"
      requestTimeoutSecs := 0 }
  retry := ⟨10, 1, 5, 10⟩
  saml := ⟨"ceph-mon", "focal_yoga"⟩

instance : Inhabited Config := ⟨default⟩

inductive Part where
  | general | model | dashboard | retry | saml
  deriving DecidableEq, Repr

/-- The sections in the order in which they are written. -/
def Part.all : List Part := [general, model, dashboard, retry, saml]

def Part.name : Part → String
  | general => "general"
  | model => "model"
  | dashboard => "dashboard"
  | retry => "retry"
  | saml => "saml"

def Part.typeName : Part → String
  | general => "GeneralConfig"
  | model => "ModelConfig"
  | dashboard => "DashboardConfig"
  | retry => "RetryConfig"
  | saml => "SamlConfig"

inductive Width where
  | w16 | w32 | w64
  deriving DecidableEq, Repr

def Width.limit : Width → Nat
  | w16 => Number.max16
  | w32 => Number.max32
  | w64 => Number.max64

def Width.typeName : Width → String
  | w16 => "u16"
  | w32 => "u32"
  | w64 => "u64"

/-- What a setting holds and how it is reached. -/
inductive Slot where
  | text (get : Config → String) (put : String → Config → Config)
  | number (width : Width) (get : Config → Nat) (put : Nat → Config → Config)

structure Setting where
  part : Part
  name : String
  slot : Slot

def settings : List Setting :=
  [⟨.general, "log_level", .text (·.general.logLevel) fun v c => { c with general.logLevel := v }⟩,
   ⟨.general, "log_format", .text (·.general.logFormat) fun v c =>
     { c with general.logFormat := v }⟩,
   ⟨.model, "juju_binary", .text (·.model.jujuBinary) fun v c => { c with model.jujuBinary := v }⟩,
   ⟨.model, "model", .text (·.model.model) fun v c => { c with model.model := v }⟩,
   ⟨.model, "command_timeout_secs", .number .w64 (·.model.commandTimeoutSecs) fun v c =>
     { c with model.commandTimeoutSecs := v }⟩,
   ⟨.dashboard, "application", .text (·.dashboard.application) fun v c =>
     { c with dashboard.application := v }⟩,
   ⟨.dashboard, "scheme", .text (·.dashboard.scheme) fun v c => { c with dashboard.scheme := v }⟩,
   ⟨.dashboard, "port", .number .w16 (·.dashboard.port) fun v c => { c with dashboard.port := v }⟩,
   ⟨.dashboard, "ca_cert", .text (·.dashboard.caCert) fun v c => { c with dashboard.caCert := v }⟩,
   ⟨.dashboard, "remote_ca_cert", .text (·.dashboard.remoteCaCert) fun v c =>
     { c with dashboard.remoteCaCert := v }⟩,
   ⟨.dashboard, "user_role", .text (·.dashboard.userRole) fun v c =>
     { c with dashboard.userRole := v }⟩,
   ⟨.dashboard, "username_prefix", .text (·.dashboard.usernamePrefix) fun v c =>
     { c with dashboard.usernamePrefix := v }⟩,
   ⟨.dashboard, "request_timeout_secs", .number .w64 (·.dashboard.requestTimeoutSecs) fun v c =>
     { c with dashboard.requestTimeoutSecs := v }⟩,
   ⟨.retry, "max_attempts", .number .w32 (·.retry.maxAttempts) fun v c =>
     { c with retry.maxAttempts := v }⟩,
   ⟨.retry, "multiplier_secs", .number .w64 (·.retry.multiplierSecs) fun v c =>
     { c with retry.multiplierSecs := v }⟩,
   ⟨.retry, "min_wait_secs", .number .w64 (·.retry.minWaitSecs) fun v c =>
     { c with retry.minWaitSecs := v }⟩,
   ⟨.retry, "max_wait_secs", .number .w64 (·.retry.maxWaitSecs) fun v c =>
     { c with retry.maxWaitSecs := v }⟩,
   ⟨.saml, "release_application", .text (·.saml.releaseApplication) fun v c =>
     { c with saml.releaseApplication := v }⟩,
   ⟨.saml, "min_release", .text (·.saml.minRelease) fun v c => { c with saml.minRelease := v }⟩]

def Part.settings (part : Part) : List Setting :=
  Config.settings.filter fun setting => setting.part == part

def Setting.copy (setting : Setting) (other c : Config) : Config :=
  match setting.slot with
  | .text get put => put (get other) c
  | .number _ get put => put (get other) c

def Part.copy (part : Part) (other c : Config) : Config :=
  part.settings.foldl (fun c setting => setting.copy other c) c

def commandTimeout (c : Config) : Duration := .ofSecs c.model.commandTimeoutSecs

/-- How long a request may take; none if there is no limit. -/
def requestTimeout (c : Config) : Option Duration :=
  if 0 < c.dashboard.requestTimeoutSecs then some (.ofSecs c.dashboard.requestTimeoutSecs) else none

end Config

end DashboardCheck
