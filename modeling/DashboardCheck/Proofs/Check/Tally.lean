import DashboardCheck.Proofs.Check.Saml
import DashboardCheck.Proofs.Check.Suite
import DashboardCheck.Proofs.Counters

/-!
# What a run reports

A run reports on the scenarios that were selected, each once and in order, however many of them
fail. Its numbers are those of its entries, and the counters of scenarios grow by the same numbers:
a scenario itself marks no scenario as ended, only the run that it is part of does.
-/
namespace DashboardCheck

open Program (Within)

/-- An event that does not mark the end of a scenario. -/
def Event.IsWork : Event → Prop
  | .ended _ => False
  | _ => True

theorem Event.IsGet.isWork {event : Event} (h : event.IsGet) : event.IsWork := by
  cases event <;> first | exact h.elim | trivial

theorem Event.IsProbe.isWork {event : Event} (h : event.IsProbe) : event.IsWork := by
  cases event <;> first | exact h.elim | trivial

theorem Event.IsQuestion.isWork {event : Event} (h : event.IsQuestion) : event.IsWork := by
  cases event <;> first | exact h.elim | trivial

theorem Http.Client.works_get (client : Client) (url : String) (follow : Bool) :
    Within Event.IsWork (client.get url follow) :=
  (client.within_get url follow).weaken fun _ => Event.IsGet.isWork

theorem works_checkKeys (application : String) (keys : List String) :
    Within Event.IsWork (checkKeys application keys) := by
  induction keys with
  | nil => exact Program.within_pure ()
  | cons key rest ih =>
    refine Within.after_log ((within_consult trivial).bind fun outcome => ?_)
    exact Within.ite ((Program.within_ofExcept _).bind fun _ => ih) ih

namespace Context

variable (ctx : Context)

theorem works_probeAll (units : List String) : Within Event.IsWork (ctx.probeAll units) := by
  induction units with
  | nil => exact Program.within_pure []
  | cons unit rest ih =>
    refine ((ctx.within_probe unit).weaken fun _ => Event.IsProbe.isWork).bind fun found => ?_
    exact (ih.bind fun more => Program.within_pure _).after_log

theorem works_verifyTopology : Within Event.IsWork ctx.verifyTopology := by
  have hprobe : Within Event.IsWork ctx.probeUnits :=
    (within_consult trivial).bind fun units =>
      (ctx.works_probeAll units).bind fun probes => Program.within_pure _
  refine hprobe.bind fun topology => ?_
  split
  · exact (Program.within_pure _).after_log
  · exact Program.within_ofExcept _

theorem works_createUser (username : String) : Within Event.IsWork (ctx.createUser username) :=
  (within_consult trivial).bind fun outcome => (Program.within_pure outcome).after_log

theorem works_randomUsername (start : String) :
    Within Event.IsWork (randomUsername start : Program CheckError String) :=
  (Program.within_freshName fun _ => trivial).bind fun _ => Program.within_pure _

theorem works_checkCreateUser : Within Event.IsWork ctx.checkCreateUser := by
  refine (works_randomUsername _).bind fun username => ?_
  refine (ctx.works_createUser username).bind fun first => ?_
  refine (Program.within_ofExcept _).bind fun password => ?_
  refine (ctx.works_createUser username).bind fun second => ?_
  exact Within.ite (Program.within_ofExcept _) (Program.within_pure ())

theorem works_requireActive (scenario : String) :
    Within Event.IsWork (ctx.requireActive scenario) := by
  refine (ctx.within_findActive.weaken fun _ => Event.IsProbe.isWork).bind fun found => ?_
  cases found with
  | none => exact Program.within_ofExcept _
  | some url => exact Program.within_pure url

theorem works_accessDashboard (url : String) : Within Event.IsWork (ctx.accessDashboard url) := by
  refine (works_randomUsername _).bind fun username => ?_
  refine (ctx.works_createUser username).bind fun outcome => ?_
  refine (Program.within_ofExcept _).bind fun password => ?_
  refine Within.bind (ctx.http.within_send fun event htakes => ?_) fun arrival => ?_
  · cases event <;> first | exact htakes.elim | trivial
  · have hlog : Within Event.IsWork
        (Program.log (loginLine username (authUrl url)) : Program CheckError Unit) :=
      Program.within_logAll _
    exact Within.ite ((Program.within_ofExcept _).bind fun _ => hlog) hlog

theorem works_verifyLogin (url : String) : Within Event.IsWork (ctx.verifyLogin url) := by
  refine (ctx.http.works_get _ false).bind fun login => ?_
  dsimp only
  split
  · exact Program.within_ofExcept _
  · next redirect _ =>
    refine (ctx.http.works_get _ false).bind fun metadata => ?_
    have hlast : Within Event.IsWork (do
        Program.log ⟨.info, samlTarget, "SAML login redirects and metadata is served",
          [("url", .text url), ("redirect", .text redirect)]⟩
        return SamlCheck.verified url redirect : Program CheckError SamlCheck) :=
      (Program.within_pure _).after_log
    exact Within.ite ((Program.within_ofExcept _).bind fun _ => hlast) hlast

theorem works_checkSaml : Within Event.IsWork ctx.checkSaml := by
  refine (Program.within_ofExcept _).bind fun minimum => ?_
  refine ((within_applicationRelease _).weaken fun _ => Event.IsQuestion.isWork).bind
    fun release => ?_
  refine Within.ite (Program.within_pure _).after_log ?_
  refine (ctx.works_requireActive "saml").bind fun url => ?_
  refine ((Program.within_makeTemp fun _ => trivial).mapError _).bind fun file => ?_
  exact (within_consult trivial).bind fun _ => (ctx.works_verifyLogin url).after_log

/-- Nothing that a scenario does marks the end of a scenario. -/
theorem works_carryOut (scenario : Scenario) : Within Event.IsWork (ctx.carryOut scenario) := by
  cases scenario with
  | dashboardUnits => exact ctx.works_verifyTopology.bind fun _ => Program.within_pure _
  | createUser => exact ctx.works_checkCreateUser.bind fun _ => Program.within_pure _
  | accessDashboard =>
    refine (ctx.works_requireActive _).bind fun url => ?_
    exact (ctx.works_accessDashboard url).bind fun _ => Program.within_pure _
  | cephKeys =>
    refine Within.bind ?_ fun _ => Program.within_pure _
    refine (within_consult trivial).bind fun applications => ?_
    exact (works_checkKeys _ _).bind fun _ => Program.within_pure _
  | saml =>
    refine ctx.works_checkSaml.bind fun check => ?_
    cases check with
    | verified url redirect => exact Program.within_pure _
    | skipped release minimum => exact Program.within_pure _

variable (setting : Setting)

/-- A scenario that was run is counted once, with the verdict on it. -/
theorem results_afterScenario (scenario : Scenario) (world : World) (result : String) :
    (ctx.afterScenario setting scenario world).trace.results result =
      world.trace.results result +
        if (ctx.entry setting scenario world).verdict.label = result then 1 else 0 := by
  obtain ⟨outcome, events, hdoes, hwork⟩ := ctx.works_carryOut scenario setting world
  have hnone : events.results result = 0 :=
    List.count_eq_zero.mpr fun hmem => hwork _ hmem
  have hlast : Trace.results [.ended (ctx.entry setting scenario world).verdict.label] result =
      if (ctx.entry setting scenario world).verdict.label = result then 1 else 0 := by
    simp [Trace.results, List.count_singleton]
  rw [afterScenario, World.after_trace, Trace.results_append, hlast, hdoes.trace_eq,
    Trace.results_append, hnone, Nat.add_zero]

/-- Scenarios that were run are counted as the entries on them are. -/
theorem results_afterScenarios (scenarios : List Scenario) (world : World) (result : String) :
    (ctx.afterScenarios setting scenarios world).trace.results result =
      world.trace.results result +
        (SuiteReport.ofEntries (ctx.entries setting scenarios world)).count result := by
  rw [SuiteReport.count, SuiteReport.ofEntries_scenarios]
  induction scenarios generalizing world with
  | nil => rfl
  | cons scenario rest ih =>
    have hrest : ctx.afterScenarios setting (scenario :: rest) world =
        ctx.afterScenarios setting rest (ctx.afterScenario setting scenario world) := rfl
    rw [hrest, ih, results_afterScenario, entries, List.countP_cons]
    simp only [beq_iff_eq]
    omega

/-- A report on a run of these scenarios, with what its entries say counted in the report and by
the counters. -/
structure ReportsOn (selected : List Scenario) (start finish : World) (report : SuiteReport) :
    Prop where
  names : report.scenarios.map ScenarioReport.name = selected.map Scenario.name
  counted : report.Counted
  total : report.passed + report.failed + report.skipped = report.scenarios.length
  success : report.isSuccess = true ↔ ∀ entry ∈ report.scenarios, entry.verdict.isFailed = false
  counters : ∀ result ∈ ["passed", "failed", "skipped"],
    finish.trace.scenarioReading result = start.trace.scenarioReading result + report.count result

/-- The entries of a run, counted, are a report on the scenarios that were selected. -/
theorem reportsOn_ofEntries (selected : List Scenario) (world : World) :
    ReportsOn selected world (ctx.afterScenarios setting selected world)
      (.ofEntries (ctx.entries setting selected world)) := by
  have hcounted : (SuiteReport.ofEntries (ctx.entries setting selected world)).Counted :=
    SuiteReport.counted_ofEntries _
  refine ⟨?_, hcounted, hcounted.total, SuiteReport.isSuccess_iff hcounted.tallied,
    fun result hresult => ?_⟩
  · rw [SuiteReport.ofEntries_scenarios, entries_names]
  · have hlabel : result = "passed" ∨ result = "failed" ∨ result = "skipped" := by
      simpa using hresult
    rw [Trace.scenarioReading_eq _ hlabel, Trace.scenarioReading_eq _ hlabel,
      results_afterScenarios]

/-- What names select is each scenario that they spell, once and in order; all five for no names,
and nothing but the first name that spells none decides whether there is an error and which. A run
of what was selected always ends with a report on it; a run with a wrong name does nothing. -/
theorem run_selected (names : List String) :
    Scenario.select [] = .ok Scenario.all ∧
    (∀ e, Scenario.select names = .error e ↔
      ∃ text, Scenario.FirstUnknown names text ∧ e = Scenario.unknown text) ∧
    ((∃ selected, Scenario.select names = .ok selected) ↔
      ∀ text ∈ names, ∃ scenario, Scenario.Spells text scenario) ∧
    (∀ selected, Scenario.select names = .ok selected → Scenario.Selected names selected ∧
      ∀ names', (∀ text ∈ names', ∃ scenario, Scenario.Spells text scenario) →
        (∀ scenario, (∃ text ∈ names, Scenario.Spells text scenario) ↔
          ∃ text ∈ names', Scenario.Spells text scenario) →
        Scenario.select names' = .ok selected) ∧
    ∀ (ctx : Context) (setting : Setting) (world : World),
      (∀ selected, Scenario.select names = .ok selected → ∃ report finish,
        (ctx.run names).start setting world = (.ok report, finish) ∧
          ReportsOn selected world finish report) ∧
      ∀ e, Scenario.select names = .error e →
        (ctx.run names).start setting world = (.error e, world) := by
  refine ⟨rfl, fun e => Scenario.select_eq_error_iff, ?_, fun selected hselect => ?_,
    fun ctx setting world => ⟨fun selected hselect => ?_, fun e hselect => ?_⟩⟩
  · exact Scenario.exists_select_iff
  · exact ⟨(Scenario.select_ok hselect).2,
      fun names' hknown hsame => Scenario.select_same hselect hknown hsame⟩
  · exact ⟨_, _, ctx.start_run setting world hselect,
      ctx.reportsOn_ofEntries setting selected world⟩
  · exact ctx.start_run_error setting world hselect

end Context

end DashboardCheck
