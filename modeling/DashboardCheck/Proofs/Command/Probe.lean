import DashboardCheck.Proofs.Command.Run

/-!
# What `dashprobe probe` comes to

A process that looks at the units prints nothing if it cannot, and otherwise what it found. Its exit
code says whether that is healthy, just as the report does.
-/
namespace DashboardCheck

/-- A report on the units is that of what was found, and there is a complaint exactly if that is not
healthy. -/
theorem Command.start_probeUnits {config : Config} {setting : Setting} {world finish : World}
    {conclusion : Conclusion}
    (h : (probeUnits config).start setting world = (.ok conclusion, finish)) :
    ∃ ctx built t, (Context.build config).start setting world = (.ok ctx, built) ∧
      ctx.probeUnits.start setting built = (.ok t, finish) ∧
      conclusion.report = .probe (probeReport ctx t) ∧
      (conclusion.complaint = none ↔ t.isHealthy = true) := by
  obtain ⟨ctx, built, hbuild, hrest⟩ := Program.start_bind_eq_ok h
  obtain ⟨t, after, hprobe, hlast⟩ := Program.start_bind_eq_ok hrest
  obtain ⟨rfl, rfl⟩ : _ = conclusion ∧ after = finish := by simpa using hlast
  refine ⟨ctx, built, t, Program.start_of_mapError_ok hbuild,
    Program.start_of_mapError_ok hprobe, rfl, ?_⟩
  rw [Topology.verify]
  cases t.isHealthy <;> simp

/-- A process printed a report on the units, and its code is zero exactly if the report says that
they are healthy. -/
structure Exit.ReportsUnits (exit : Exit) (format : Format) (colour : Bool) (report : ProbeReport) :
    Prop where
  stdout : exit.stdout = (CommandReport.probe report).render format colour
  healthy : report.toJson.get? "healthy" = some (.bool (exit.code == 0))
  verdict : exit.code = 0 ↔ report.topology.isHealthy = true

/-- A probe that can be printed ends with a complaint unless the topology is healthy. -/
theorem Exit.reportsUnits_of_conclusion {conclusion : Conclusion} {report : ProbeReport}
    (format : Format) (colour : Bool) (hreport : conclusion.report = .probe report)
    (hcomplaint : conclusion.complaint = none ↔ report.topology.isHealthy = true) :
    (ofResult format colour (.ok conclusion)).ReportsUnits format colour report := by
  obtain ⟨_, complaint⟩ := conclusion
  subst hreport
  have hverdict : (ofResult format colour (.ok ⟨.probe report, complaint⟩)).code = 0 ↔
      report.topology.isHealthy = true := by
    rw [← hcomplaint]
    cases complaint with
    | none => exact iff_of_true rfl rfl
    | some e => exact iff_of_false e.code_ne_zero (by simp)
  refine ⟨?_, ?_, hverdict⟩
  · cases complaint <;> rfl
  · have hmember : report.toJson.get? "healthy" = some (.bool report.topology.isHealthy) := rfl
    rw [hmember]
    cases hhealthy : report.topology.isHealthy with
    | true => simp [hverdict.mpr hhealthy]
    | false =>
      have hcode : (ofResult format colour (.ok ⟨.probe report, complaint⟩)).code ≠ 0 := by
        rw [Ne, hverdict, hhealthy]
        exact Bool.false_ne_true
      simp [hcode]

/-- A process that looks at the units either prints nothing and fails, or it prints what was
found. -/
theorem CommandLine.process_probe {arguments : List String} {env : Environment}
    {host : Juju.Client → Juju.Host} {setting : Setting} {world : World} {line : CommandLine}
    (hline : ofArguments arguments = .ok line) (hcommand : line.command = .probe) :
    let exit := (process arguments env host setting world).1
    let finish := (process arguments env host setting world).2
    (exit.stdout = "" ∧ exit.code ≠ 0) ∨
      ∃ config ctx built t,
        let client := Juju.Client.ofConfig config
        let inner := client.inside (host client) setting
        (Context.build config).start inner world = (.ok ctx, built) ∧
        ctx.probeUnits.start inner built = (.ok t, finish) ∧
        exit.ReportsUnits line.output (wantsColour env) (Command.probeReport ctx t) := by
  intro exit finish
  have hprocess : process arguments env host setting world =
      (.ofResult line.output (wantsColour env)
        ((line.withConfig env host Command.probeUnits).start setting world).1,
        ((line.withConfig env host Command.probeUnits).start setting world).2) := by
    rw [process_of_line env host setting world hline, execute, carryOut_probe env host hcommand]
  cases hconfig : Config.loadOrDefault world.disk env line.config with
  | error e =>
    rw [start_withConfig_error host _ setting hconfig] at hprocess
    refine .inl ?_
    simp only [exit, hprocess]
    exact ⟨rfl, CommandError.code_ne_zero _⟩
  | ok config =>
    rw [start_withConfig host _ setting hconfig] at hprocess
    rcases hrun : (Command.probeUnits config).start ((Juju.Client.ofConfig config).inside
      (host (Juju.Client.ofConfig config)) setting) world with ⟨result, after⟩
    rw [hrun] at hprocess
    cases result with
    | error e =>
      refine .inl ?_
      simp only [exit, hprocess]
      exact ⟨rfl, e.code_ne_zero⟩
    | ok conclusion =>
      obtain ⟨ctx, built, t, hbuild, hprobe, hreport, hcomplaint⟩ := Command.start_probeUnits hrun
      refine .inr ⟨config, ctx, built, t, hbuild, ?_, ?_⟩
      · simp only [finish, hprocess]
        exact hprobe
      · simp only [exit, hprocess]
        exact Exit.reportsUnits_of_conclusion line.output (wantsColour env) hreport hcomplaint

end DashboardCheck
