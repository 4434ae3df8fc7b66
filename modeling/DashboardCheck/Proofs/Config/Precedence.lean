import DashboardCheck.Proofs.Config.Given

/-!
# Which value a setting has

Variables come before the file, and the file before the defaults, setting by setting. A variable or
an entry of the file has a say in the one setting that it is for, and entries that are for none have
no say at all.
-/
namespace DashboardCheck.Config

open Document

def textOf? : Scalar → Option String
  | .string text => some text
  | _ => none

/-- The number of at most `limit` that a value without parts is. -/
def numberOf? (limit : Nat) : Scalar → Option Nat
  | .integer n => if 0 ≤ n ∧ n ≤ limit then some n.toNat else none
  | _ => none

section Layers

variable (env : Environment) (given : Given)

/-- A text: that of the variable, or else that of the file, or else the default. -/
def layeredText (key part name fallback : String) : String :=
  ((env.text? key).or ((given.value? part name).bind textOf?)).getD fallback

/-- A number, in the same way. A variable that does not write a number that fits does not count. -/
def layeredNumber (limit : Nat) (key part name : String) (fallback : Nat) : Nat :=
  (((env.text? key).bind fun text => Number.natural? limit text.toList).or
    ((given.value? part name).bind (numberOf? limit))).getD fallback

/-- The configuration in which each setting has the value of its variable, or else that of its
entry, or else its default. -/
def layered : Config where
  general :=
    { logLevel := layeredText env given "DASHPROBE_GENERAL_LOG_LEVEL" "general" "log_level" "info"
      logFormat :=
        layeredText env given "DASHPROBE_GENERAL_LOG_FORMAT" "general" "log_format" "pretty" }
  model :=
    { jujuBinary := layeredText env given "DASHPROBE_MODEL_JUJU_BINARY" "model" "juju_binary" "juju"
      model := layeredText env given "DASHPROBE_MODEL_MODEL" "model" "model" ""
      commandTimeoutSecs := layeredNumber env given Number.max64
        "DASHPROBE_MODEL_COMMAND_TIMEOUT_SECS" "model" "command_timeout_secs" 300 }
  dashboard :=
    { application := layeredText env given "DASHPROBE_DASHBOARD_APPLICATION" "dashboard"
        "application" "ceph-dashboard"
      scheme := layeredText env given "DASHPROBE_DASHBOARD_SCHEME" "dashboard" "scheme" "https"
      port := layeredNumber env given Number.max16 "DASHPROBE_DASHBOARD_PORT" "dashboard" "port"
        8443
      caCert := layeredText env given "DASHPROBE_DASHBOARD_CA_CERT" "dashboard" "ca_cert" ""
      remoteCaCert := layeredText env given "DASHPROBE_DASHBOARD_REMOTE_CA_CERT" "dashboard"
        "remote_ca_cert" "/usr/local/share/ca-certificates/vault_ca_cert_dashboard.crt"
      userRole := layeredText env given "DASHPROBE_DASHBOARD_USER_ROLE" "dashboard" "user_role"
        "administrator"
      usernamePrefix := layeredText env given "DASHPROBE_DASHBOARD_USERNAME_PREFIX" "dashboard"
        "username_prefix" "dashprobe-user"
      requestTimeoutSecs := layeredNumber env given Number.max64
        "DASHPROBE_DASHBOARD_REQUEST_TIMEOUT_SECS" "dashboard" "request_timeout_secs" 0 }
  retry :=
    { maxAttempts := layeredNumber env given Number.max32 "DASHPROBE_RETRY_MAX_ATTEMPTS" "retry"
        "max_attempts" 10
      multiplierSecs := layeredNumber env given Number.max64 "DASHPROBE_RETRY_MULTIPLIER_SECS"
        "retry" "multiplier_secs" 1
      minWaitSecs := layeredNumber env given Number.max64 "DASHPROBE_RETRY_MIN_WAIT_SECS" "retry"
        "min_wait_secs" 5
      maxWaitSecs := layeredNumber env given Number.max64 "DASHPROBE_RETRY_MAX_WAIT_SECS" "retry"
        "max_wait_secs" 10 }
  saml :=
    { releaseApplication := layeredText env given "DASHPROBE_SAML_RELEASE_APPLICATION" "saml"
        "release_application" "ceph-mon"
      minRelease := layeredText env given "DASHPROBE_SAML_MIN_RELEASE" "saml" "min_release"
        "focal_yoga" }

end Layers

def Setting.said? (s : Setting) (env : Environment) (given : Given) : Option Held :=
  (s.fromEnvironment? env).or (s.fromFile? given)

section Said

variable (env : Environment) (given : Given) (part : Part) (name : String)

/-- What is said about a setting with a text, in the words of the layers. -/
theorem said?_text (get : Config → String) (put : String → Config → Config) (fallback : String) :
    ((Setting.mk part name (.text get put)).said? env given).getD (.text fallback) =
      .text (layeredText env given (Setting.mk part name (.text get put)).variable part.name name
        fallback) := by
  simp only [Setting.said?, Setting.fromEnvironment?, Setting.fromFile?, layeredText]
  cases env.text? _ with
  | some text => rfl
  | none =>
    cases given.value? part.name name with
    | none => rfl
    | some value => cases value <;> rfl

/-- What is said about a setting with a number: a variable counts if it writes a number that fits.
-/
theorem said?_number (width : Width) (get : Config → Nat) (put : Nat → Config → Config)
    (fallback : Nat) :
    ((Setting.mk part name (.number width get put)).said? env given).getD (.number fallback) =
      .number (layeredNumber env given width.limit
        (Setting.mk part name (.number width get put)).variable part.name name fallback) := by
  have hfile : (Setting.mk part name (.number width get put)).fromFile? given =
      ((given.value? part.name name).bind (numberOf? width.limit)).map .number := by
    rw [Setting.fromFile?, Option.map_bind]
    congr 1
    funext value
    cases value with
    | integer n => by_cases h : 0 ≤ n ∧ n ≤ width.limit <;>
        simp [Setting.ofScalar?, numberOf?, h]
    | _ => rfl
  have henv : (Setting.mk part name (.number width get put)).fromEnvironment? env =
      ((env.text? (Setting.mk part name (.number width get put)).variable).bind fun text =>
        Number.natural? width.limit text.toList).map .number := by
    rw [Setting.fromEnvironment?, Option.map_bind]
    rfl
  rw [Setting.said?, hfile, henv, layeredNumber, ← Option.map_or, Option.getD_map]

end Said

/-- The variables of all settings, as the documentation lists them. -/
theorem settings_variable : settings.map Setting.variable =
    ["DASHPROBE_GENERAL_LOG_LEVEL", "DASHPROBE_GENERAL_LOG_FORMAT", "DASHPROBE_MODEL_JUJU_BINARY",
     "DASHPROBE_MODEL_MODEL", "DASHPROBE_MODEL_COMMAND_TIMEOUT_SECS",
     "DASHPROBE_DASHBOARD_APPLICATION", "DASHPROBE_DASHBOARD_SCHEME", "DASHPROBE_DASHBOARD_PORT",
     "DASHPROBE_DASHBOARD_CA_CERT", "DASHPROBE_DASHBOARD_REMOTE_CA_CERT",
     "DASHPROBE_DASHBOARD_USER_ROLE", "DASHPROBE_DASHBOARD_USERNAME_PREFIX",
     "DASHPROBE_DASHBOARD_REQUEST_TIMEOUT_SECS", "DASHPROBE_RETRY_MAX_ATTEMPTS",
     "DASHPROBE_RETRY_MULTIPLIER_SECS", "DASHPROBE_RETRY_MIN_WAIT_SECS",
     "DASHPROBE_RETRY_MAX_WAIT_SECS", "DASHPROBE_SAML_RELEASE_APPLICATION",
     "DASHPROBE_SAML_MIN_RELEASE"] := by
  decide +kernel

theorem held_layered (env : Environment) (given : Given) :
    ∀ s ∈ settings, s.held (layered env given) = (s.said? env given).getD (s.held default) := by
  have hvariables := settings_variable
  simp only [settings, List.map_cons, List.map_nil, List.cons.injEq, and_true] at hvariables
  simp only [settings, List.forall_mem_cons, List.not_mem_nil, false_implies, implies_true,
    and_true, Setting.held, default, said?_text, said?_number, hvariables]
  simp [layered, Part.name, Width.limit]

/-- With the environment, each setting holds what is said about it, or else its default. -/
theorem held_said {depth : Nat} {file : Node} {c : Config} (env : Environment)
    (h : record.shape (depth + 2) file = .ok c) {s : Setting} (hs : s ∈ settings) :
    s.held (c.override env) = (s.said? env (givenBy file)).getD (s.held default) := by
  rw [held_override hs, (document_read h).2 s hs, Setting.said?]
  cases s.fromEnvironment? env <;> rfl

/-- The value of each setting is that of its variable, or else that of its entry in the file, or
else its default. No other variable and no other entry has a say in it, and neither has overriding
twice or anything in the file that is not known. -/
theorem parse_override (text : String) (c : Config) (env : Environment)
    (h : parse text = .ok c) :
    ∃ file, Toml.parse? text = some file ∧
      c.override env = layered env (givenBy file) ∧
      (c.override env).override env = c.override env ∧
      (∀ s ∈ settings, ∀ entry, (givenBy file).listed? s.part.name s.name = some entry →
        ∃ value held, entry = some value ∧ s.ofScalar? value = some held) ∧
      (∀ s ∈ settings, ∀ (text' : String) (file' : Node) (c' : Config) (env' : Environment),
        Toml.parse? text' = some file' → parse text' = .ok c' →
        env'.text? s.variable = env.text? s.variable →
        (givenBy file').listed? s.part.name s.name = (givenBy file).listed? s.part.name s.name →
        s.held (c'.override env') = s.held (c.override env)) ∧
      ∀ (text' : String) (file' : Node), Toml.parse? text' = some file' → file'.skip = none →
        givenBy file' = givenBy file → parse text' = .ok c := by
  obtain ⟨file, htext, hread⟩ := parse_eq_ok_iff.mp h
  obtain ⟨hfits, hheld⟩ := document_read hread
  refine ⟨file, htext, ?_, ?_, ?_, ?_, ?_⟩
  · refine ext_held fun s hs => ?_
    rw [held_said env hread hs, held_layered env (givenBy file) s hs]
  · refine ext_held fun s hs => ?_
    rw [held_override hs, held_override hs]
    cases s.fromEnvironment? env <;> rfl
  · exact fun s hs entry hentry => hfits.entry hs hentry
  · intro s hs text' file' c' env' htext' h' henv hentry
    obtain ⟨other, hother, hread'⟩ := parse_eq_ok_iff.mp h'
    obtain rfl : file' = other := Option.some.inj (htext'.symm.trans hother)
    rw [held_said env hread hs, held_said env' hread' hs, Setting.said?, Setting.said?,
      Setting.fromEnvironment?, Setting.fromEnvironment?, henv, Setting.fromFile?,
      Setting.fromFile?, Given.value?, Given.value?, hentry]
  · intro text' file' htext' hskip hgiven
    obtain ⟨c', h'⟩ := parse_of_fit htext' hskip (hgiven ▸ hfits)
    obtain ⟨other, hother, hread'⟩ := parse_eq_ok_iff.mp h'
    obtain rfl : file' = other := Option.some.inj (htext'.symm.trans hother)
    have hsame : c' = c := by
      refine ext_held fun s hs => ?_
      rw [(document_read hread').2 s hs, hheld s hs, hgiven]
    rw [h', hsame]

/-- A file with two settings, and with a name and a section that are not known. -/
def mixedText : String :=
  "[dashboard]\nport = 9000\nscheme = \"http\"\ncolour = 1\n[other]\nname = \"x\"\n"

def mixedConfig : Config :=
  { default with dashboard.port := 9000, dashboard.scheme := "http" }

/-- A port that is too large, and a scheme. -/
def mixedEnvironment : Environment :=
  [("DASHPROBE_DASHBOARD_PORT", Text.encode "70000"),
   ("DASHPROBE_DASHBOARD_SCHEME", Text.encode "https")]

/-- The scheme is that of its variable, but the port that of the file. -/
theorem parse_override_mixed :
    ∃ file, Toml.parse? mixedText = some file ∧
      mixedConfig.override mixedEnvironment = layered mixedEnvironment (givenBy file) ∧
      (layered mixedEnvironment (givenBy file)).dashboard.port = 9000 ∧
      (layered mixedEnvironment (givenBy file)).dashboard.scheme = "https" := by
  obtain ⟨file, htext, hlayered, -⟩ :=
    parse_override mixedText mixedConfig mixedEnvironment (by decide +kernel)
  refine ⟨file, htext, hlayered, ?_, ?_⟩ <;> rw [← hlayered] <;> decide +kernel

end DashboardCheck.Config
