import DashboardCheck.Proofs.Check.Creation

/-!
# Keys that other applications leave

Which keys have to be there depends on which applications there are, and on nothing else. The keys
are asked for one after the other, each with a command on the dashboard's leader, up to the first
that is missing or that there is no answer for.
-/
namespace DashboardCheck

open Program (Does)

/-- All keys in the order in which they are asked for, each with the application that leaves it. -/
def companionKeys : List (String × String) :=
  [("ceph-radosgw", "config/mgr/mgr/dashboard/RGW_API_ACCESS_KEY"),
   ("ceph-radosgw", "config/mgr/mgr/dashboard/RGW_API_SECRET_KEY"),
   ("grafana", "config/mgr/mgr/dashboard/GRAFANA_API_URL"),
   ("prometheus", "config/mgr/mgr/dashboard/PROMETHEUS_API_HOST"),
   ("ceph-iscsi", "mgr/dashboard/_iscsi_config")]

theorem expectedKeys_eq (applications : List String) :
    expectedKeys applications =
      (companionKeys.filter fun entry => applications.contains entry.1).map Prod.snd := by
  simp only [expectedKeys, applicationKeys, companionKeys, List.filter_cons, List.filter_nil]
  cases applications.contains "ceph-radosgw" <;> cases applications.contains "grafana" <;>
    cases applications.contains "prometheus" <;> cases applications.contains "ceph-iscsi" <;> rfl

variable {applications applications' : List String}

/-- Neither the order of the applications nor their repetition matters. -/
theorem expectedKeys_congr (h : ∀ name, name ∈ applications ↔ name ∈ applications') :
    expectedKeys applications = expectedKeys applications' := by
  rw [expectedKeys_eq, expectedKeys_eq]
  refine congrArg (List.map Prod.snd) (List.filter_congr fun entry _ => ?_)
  simp [h]

theorem nodup_expectedKeys (applications : List String) : (expectedKeys applications).Nodup := by
  have hall : (companionKeys.map Prod.snd).Nodup := by decide
  rw [expectedKeys_eq]
  exact hall.sublist (List.filter_sublist.map _)

/-- More applications leave more keys, among which the others keep their order. -/
theorem expectedKeys_sublist (h : ∀ name ∈ applications, name ∈ applications') :
    (expectedKeys applications).Sublist (expectedKeys applications') := by
  rw [expectedKeys_eq, expectedKeys_eq]
  refine List.Sublist.map _ (List.monotone_filter_right _ fun entry hentry => ?_)
  rw [List.contains_iff_mem] at hentry ⊢
  exact h entry.1 hentry

def AnswersZero (answer : Except OrchestratorError CommandOutcome) : Prop :=
  ∃ outcome, answer = .ok outcome ∧ outcome.code = 0

def keyFault (key : String) : Except OrchestratorError CommandOutcome → CheckError
  | .error e => .orchestrator e
  | .ok outcome => .assertion "ceph_keys"
      (s!"config key '{key}' missing on {outcome.unit} (exit code {outcome.code}): " ++
        Text.trim outcome.stderr)

/-- What is answered for a key, which may depend on the keys that were asked for before. -/
abbrev KeyAnswers := List String → String → Except OrchestratorError CommandOutcome

/-- Each of these keys, asked for in this order, is answered for with code zero. -/
def KeyAnswers.AllZero (answer : KeyAnswers) (keys : List String) : Prop :=
  ∀ earlier key later, keys = earlier ++ key :: later → AnswersZero (answer earlier key)

/-- Keys were tried in order, up to the first that is not answered for with code zero. -/
structure KeyCheck (answer : KeyAnswers) (keys tried : List String)
    (result : Except CheckError Unit) : Prop where
  inOrder : tried <+: keys
  /-- All keys but the last one tried are there. -/
  before : ∀ earlier key, tried = earlier ++ [key] → answer.AllZero earlier
  /-- Keys are left out only behind one that is not there. -/
  all : answer.AllZero tried → tried = keys
  passes : result = .ok () ↔ answer.AllZero tried
  /-- What is wrong is told of the last key tried. -/
  fails : ∀ earlier key, tried = earlier ++ [key] → ¬ AnswersZero (answer earlier key) →
    result = .error (keyFault key (answer earlier key))

namespace KeyAnswers

variable {answer : KeyAnswers} {key : String} {rest : List String}

theorem allZero_nil : answer.AllZero [] := by
  intro earlier key later hsplit
  simp at hsplit

theorem allZero_cons : answer.AllZero (key :: rest) ↔
    AnswersZero (answer [] key) ∧ AllZero (fun earlier => answer (key :: earlier)) rest := by
  constructor
  · intro hall
    refine ⟨hall [] key rest rfl, ?_⟩
    rintro earlier key' later rfl
    exact hall (key :: earlier) key' later rfl
  · rintro ⟨hfirst, hrest⟩ earlier key' later hsplit
    rcases List.cons_eq_append_iff.mp hsplit with ⟨rfl, heq⟩ | ⟨more, rfl, hmore⟩
    · obtain ⟨rfl, -⟩ := List.cons.inj heq
      exact hfirst
    · exact hrest more key' later hmore

end KeyAnswers

namespace KeyCheck

variable {answer : KeyAnswers} {key : String} {rest tried : List String}
  {result : Except CheckError Unit}

theorem nil : KeyCheck answer [] [] (.ok ()) where
  inOrder := List.prefix_rfl
  before := by simp
  all _ := rfl
  passes := iff_of_true rfl KeyAnswers.allZero_nil
  fails := by simp

theorem of_nil (h : KeyCheck answer [] tried result) : tried = [] ∧ result = .ok () := by
  obtain rfl := List.prefix_nil.mp h.inOrder
  exact ⟨rfl, h.passes.mpr KeyAnswers.allZero_nil⟩

/-- A first key that is not there ends the check. -/
theorem stop (h : ¬ AnswersZero (answer [] key)) :
    KeyCheck answer (key :: rest) [key] (.error (keyFault key (answer [] key))) where
  inOrder := ⟨rest, rfl⟩
  before earlier key' htried := by
    obtain ⟨rfl, -⟩ := List.append_eq_singleton_iff.mp htried.symm |>.resolve_right (by simp)
    exact KeyAnswers.allZero_nil
  all hall := absurd (hall [] key [] rfl) h
  passes := iff_of_false nofun fun hall => h (hall [] key [] rfl)
  fails earlier key' htried _ := by
    obtain ⟨rfl, hkey⟩ := List.append_eq_singleton_iff.mp htried.symm |>.resolve_right (by simp)
    obtain rfl := List.singleton_inj.mp hkey
    rfl

/-- Behind a first key that is there the others are checked. -/
theorem next (h : AnswersZero (answer [] key))
    (hrest : KeyCheck (fun earlier => answer (key :: earlier)) rest tried result) :
    KeyCheck answer (key :: rest) (key :: tried) result where
  inOrder := (List.prefix_cons_inj key).mpr hrest.inOrder
  before earlier key' htried := by
    rcases List.cons_eq_append_iff.mp htried with ⟨rfl, -⟩ | ⟨more, rfl, hmore⟩
    · exact KeyAnswers.allZero_nil
    · exact KeyAnswers.allZero_cons.mpr ⟨h, hrest.before more key' hmore⟩
  all hall := congrArg (key :: ·) (hrest.all (KeyAnswers.allZero_cons.mp hall).2)
  passes := by
    rw [hrest.passes, KeyAnswers.allZero_cons]
    exact (and_iff_right h).symm
  fails earlier key' htried hlast := by
    rcases List.cons_eq_append_iff.mp htried with ⟨rfl, heq⟩ | ⟨more, rfl, hmore⟩
    · obtain ⟨rfl, -⟩ := List.cons.inj heq
      exact absurd h hlast
    · exact hrest.fails more key' hmore hlast

end KeyCheck

section Course

variable (application : String) (setting : Setting) (world : World)

def keyQuestions (keys : List String) : Trace :=
  keys.map fun key => .called (.command application (keyCommand key))

/-- What is answered for a key in this world, after others were asked for. -/
def keyAnswers : KeyAnswers := fun earlier key =>
  (setting.orchestrator (setting.replay world (keyQuestions application earlier))
    (.command application (keyCommand key))).1

variable {application setting world} {key : String} {rest tried : List String}
  {result : Except CheckError Unit}

theorem does_askKey (application : String) (setting : Setting) (world : World) (key : String) :
    Does setting world (consult (.command application (keyCommand key)))
      ((keyAnswers application setting world [] key).mapError .orchestrator)
      (keyQuestions application [key]) :=
  does_consult _

/-- The first key that is not answered for with code zero is named, and no further one is asked for.
-/
theorem does_checkKeys_stop (h : ¬ AnswersZero (keyAnswers application setting world [] key)) :
    Does setting world (checkKeys application (key :: rest))
      (.error (keyFault key (keyAnswers application setting world [] key)))
      (keyQuestions application [key]) := by
  have hasked := does_askKey application setting world key
  cases hanswer : keyAnswers application setting world [] key with
  | error e =>
    rw [hanswer] at hasked
    exact hasked.bind_error.after_log
  | ok outcome =>
    have hcode : outcome.code ≠ 0 := fun hcode => h ⟨outcome, hanswer, hcode⟩
    rw [hanswer] at hasked
    rw [← List.append_nil (keyQuestions application [key])]
    refine Does.after_log (hasked.bind_ok ?_)
    rw [if_pos (by simp [CommandOutcome.succeeded, hcode])]
    exact (Program.does_throw _).bind_error

/-- A key that is answered for with code zero leaves the answer to the keys behind it. -/
theorem does_checkKeys_next (h : AnswersZero (keyAnswers application setting world [] key))
    (hrest : Does setting (setting.replay world (keyQuestions application [key]))
      (checkKeys application rest) result (keyQuestions application tried)) :
    Does setting world (checkKeys application (key :: rest)) result
      (keyQuestions application (key :: tried)) := by
  obtain ⟨outcome, hanswer, hcode⟩ := h
  have hasked := does_askKey application setting world key
  rw [hanswer] at hasked
  refine Does.after_log (hasked.bind_ok ?_)
  rw [if_neg (by simp [CommandOutcome.succeeded, hcode])]
  exact hrest

/-- Whatever is answered, keys are tried up to the first that is not there. -/
theorem does_checkKeys (application : String) (setting : Setting) (world : World)
    (keys : List String) :
    ∃ tried result,
      Does setting world (checkKeys application keys) result (keyQuestions application tried) ∧
      KeyCheck (keyAnswers application setting world) keys tried result := by
  induction keys generalizing world with
  | nil => exact ⟨[], .ok (), Program.does_pure (), .nil⟩
  | cons key rest ih =>
    by_cases hzero : AnswersZero (keyAnswers application setting world [] key)
    · obtain ⟨tried, result, hrest, hcheck⟩ :=
        ih (setting.replay world (keyQuestions application [key]))
      exact ⟨key :: tried, result, does_checkKeys_next hzero hrest, .next hzero hcheck⟩
    · exact ⟨[key], _, does_checkKeys_stop hzero, .stop hzero⟩

end Course

/-- Without the names of the applications no key is asked for. -/
theorem does_checkExpectedKeys_error {application : String} {setting : Setting} {world : World}
    {e : OrchestratorError} (h : (setting.orchestrator world .names).1 = .error e) :
    Does setting world (checkExpectedKeys application) (.error (.orchestrator e))
      [.called .names] := by
  have hnames : Does setting world (consult .names)
      ((setting.orchestrator world .names).1.mapError .orchestrator) [.called .names] :=
    does_consult .names
  rw [h] at hnames
  exact hnames.bind_error

/-- Which keys are asked for is decided by the applications of the model, asked for first. -/
theorem does_checkExpectedKeys_ok {application : String} {setting : Setting} {world : World}
    {names : List String} {result : Except CheckError Unit} {events : Trace}
    (h : (setting.orchestrator world .names).1 = .ok names)
    (hkeys : Does setting (setting.replay world [.called .names])
      (checkKeys application (expectedKeys names)) result events) :
    Does setting world (checkExpectedKeys application) (result.map fun _ => expectedKeys names)
      (.called .names :: events) := by
  have hnames : Does setting world (consult .names)
      ((setting.orchestrator world .names).1.mapError .orchestrator) [.called .names] :=
    does_consult .names
  rw [h] at hnames
  have hrest : Does setting (setting.replay world [.called .names])
      (do checkKeys application (expectedKeys names); return expectedKeys names)
      (result.map fun _ => expectedKeys names) events := by
    cases result with
    | error e => exact hkeys.bind_error
    | ok _ =>
      rw [← List.append_nil events]
      exact hkeys.bind_ok (Program.does_pure _)
  exact hnames.bind_ok hrest

namespace Context

variable (ctx : Context) (setting : Setting) (world : World)

/-- What checking the keys comes to and does, also as a scenario. -/
structure KeysGate (found : Except CheckError (List String)) (verdict : Verdict)
    (events : Trace) : Prop where
  passes : verdict = .passed ↔ ∃ keys, found = .ok keys
  fails : verdict ≠ .passed → verdict.isFailed = true
  /-- Without the names of the applications nothing is run. -/
  nameless : ∀ e, (setting.orchestrator world .names).1 = .error e →
    found = .error (.orchestrator e) ∧ events = [.called .names]
  /-- The keys of the applications are asked for on the dashboard's leader, each once and in order,
  up to the first that is not there. The keys are what is given if there is none. -/
  asked : ∀ names, (setting.orchestrator world .names).1 = .ok names → ∃ tried result,
    KeyCheck (keyAnswers ctx.application setting (setting.replay world [.called .names]))
      (expectedKeys names) tried result ∧
    found = result.map (fun _ => expectedKeys names) ∧
    events = .called .names :: tried.map fun key =>
      .called (.command ctx.application ("ceph config-key exists " ++ key))
  /-- Without keys nothing is run, and all is well. -/
  keyless : ∀ names, (setting.orchestrator world .names).1 = .ok names → expectedKeys names = [] →
    found = .ok [] ∧ events = [.called .names]

/-- The check of the keys takes one of the ways through its gate. -/
theorem exists_keysGate : ∃ found events,
    Does setting world (checkExpectedKeys ctx.application) found events ∧
    ctx.KeysGate setting world found (verdictOf (found.map fun _ => .passed)) events := by
  cases hnames : (setting.orchestrator world .names).1 with
  | error e =>
    refine ⟨_, _, does_checkExpectedKeys_error hnames, verdictOf_eq_passed_iff_exists _,
      isFailed_of_ne_passed _, ?_, ?_, ?_⟩
    · intro e' hnames'
      obtain rfl : e = e' := Except.error.inj (hnames.symm.trans hnames')
      exact ⟨rfl, rfl⟩
    · exact fun names hnames' => absurd (hnames.symm.trans hnames') nofun
    · exact fun names hnames' => absurd (hnames.symm.trans hnames') nofun
  | ok names =>
    obtain ⟨tried, result, hdoes, hcheck⟩ := does_checkKeys ctx.application setting
      (setting.replay world [.called .names]) (expectedKeys names)
    refine ⟨_, _, does_checkExpectedKeys_ok hnames hdoes, verdictOf_eq_passed_iff_exists _,
      isFailed_of_ne_passed _, ?_, ?_, ?_⟩
    · exact fun e hnames' => absurd (hnames.symm.trans hnames') nofun
    · intro names' hnames'
      obtain rfl : names = names' := Except.ok.inj (hnames.symm.trans hnames')
      exact ⟨tried, result, hcheck, rfl, rfl⟩
    · intro names' hnames' hnone
      obtain rfl : names = names' := Except.ok.inj (hnames.symm.trans hnames')
      rw [hnone] at hcheck ⊢
      obtain ⟨rfl, rfl⟩ := hcheck.of_nil
      exact ⟨rfl, rfl⟩

/-- Which keys are checked depends on the set of applications only: neither their order nor their
repetition matters, no key comes twice, and with more applications there are more keys. The check
passes exactly if each of them is there, and otherwise ends with the first that is not. -/
theorem cephKeys_exact :
    (∀ names, expectedKeys names =
      (companionKeys.filter fun entry => names.contains entry.1).map Prod.snd) ∧
    (∀ names names', (∀ name, name ∈ names ↔ name ∈ names') →
      expectedKeys names = expectedKeys names') ∧
    (∀ names, (expectedKeys names).Nodup) ∧
    (∀ names names', (∀ name ∈ names, name ∈ names') →
      (expectedKeys names).Sublist (expectedKeys names')) ∧
    ∃ found verdict events, Does setting world (checkExpectedKeys ctx.application) found events ∧
      ctx.Reports setting world .cephKeys verdict events ∧
      ctx.KeysGate setting world found verdict events := by
  obtain ⟨found, events, hdoes, hgate⟩ := ctx.exists_keysGate setting world
  refine ⟨expectedKeys_eq, fun _ _ => expectedKeys_congr, nodup_expectedKeys,
    fun _ _ => expectedKeys_sublist, found, _, events, hdoes, ?_, hgate⟩
  exact reports_of_does (does_passing hdoes)

end Context

end DashboardCheck
