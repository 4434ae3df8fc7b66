import DashboardCheck.Check.Suite
import DashboardCheck.Proofs.Http.Memoryless
import DashboardCheck.Proofs.Orchestrator.Mock

/-!
# What every scenario can rely on

With an orchestrator in memory and a network without memory, all that checks of units, of keys and
of single sign-on read is the same whatever was done before. Single sign-on changes settings, but of
the settings only package sources are read.
-/
namespace DashboardCheck

open Program (Gives Settled Keeps)

namespace Context

variable (ctx : Context) (m : Mock) (replies : Http.Replies) (fault : Entry → Option FileError)

/-- The name of a user, by the name that was made up for it. -/
def username (setting : Setting) (n : Nat) : String :=
  ctx.config.dashboard.usernamePrefix ++ "-" ++ setting.name n

/-- What every scenario can rely on, whatever was done before it. Temporary files can be made always
or never. The orchestrator agrees with what it was at first, and no user has a name that is still to
be made up. -/
structure Steady (setting : Setting) (trace : Trace) : Prop where
  orchestrator : setting.orchestrator = m.orchestrator
  network : ∀ world limit request,
    setting.network world limit request = replies limit request.method request.url
  temps : ∀ world entry, setting.tempFault world entry = fault entry
  distinct : ∀ n n', setting.name n = setting.name n' → n = n'
  commands : m.CommandsFixed
  agrees : (m.since trace).Agrees m
  unused : ∀ n, trace.namesMade ≤ n →
    ∀ action ∈ (m.since trace).actions, action.username ≠ ctx.username setting n

variable {ctx m replies fault} {setting : Setting} {world : World}

theorem memoryless : Http.Memoryless replies (ctx.Steady m replies fault) where
  network := fun h => h.network
  quiet := by
    intro setting trace event hquiet h
    have hsince : m.since (trace ++ [event]) = m.since trace := Mock.since_quiet hquiet
    refine { h with agrees := ?_, unused := ?_ }
    · rw [hsince]
      exact h.agrees
    · rw [hsince, Trace.namesMade_append_quiet hquiet]
      exact h.unused

/-- A call keeps a setting steady unless it runs an action or sets a package source. -/
theorem Steady.called {trace : Trace} (h : ctx.Steady m replies fault setting trace) (call : Call)
    (hsource : call.KeepsSource)
    (haction : ∀ application action params, call ≠ .action application action params) :
    ctx.Steady m replies fault setting (trace ++ [.called call]) := by
  refine { h with agrees := ?_, unused := ?_ }
  · rw [Mock.since_called]
    exact (Mock.after_agrees _ call hsource).trans h.agrees
  · rw [Mock.since_called, Mock.after_actions _ haction, Trace.namesMade_append_called]
    exact h.unused

/-- What comes of a call is decided by the calls before. -/
theorem start_consult (h : setting.orchestrator = m.orchestrator) (call : Call)
    (hcopy : ∀ unit remotePath localPath, call ≠ .copy unit remotePath localPath) :
    (consult call).start setting world =
      (((m.since world.trace).answer call).mapError .orchestrator,
        world.after [.called call]) := by
  rw [consult, Program.start_mapError, Program.start_ask, h]
  cases call with
  | copy unit remotePath localPath => exact absurd rfl (hcopy unit remotePath localPath)
  | _ => rfl

/-- A fixed question has the answer that the recorder gives at the start. -/
theorem consult_gives (call : Call) (hfixed : call.IsFixed) (hsource : call.KeepsSource) :
    Gives (ctx.Steady m replies fault) (consult call) ((m.answer call).mapError .orchestrator) := by
  intro setting world h
  refine ⟨world.after [.called call], ?_, h.called call hsource ?_⟩
  · rw [start_consult h.orchestrator, h.agrees.answer h.commands hfixed]
    rintro unit remotePath localPath rfl
    exact hfixed
  · rintro application action params rfl
    exact hfixed

theorem consult_settled (call : Call) (hfixed : call.IsFixed) (hsource : call.KeepsSource) :
    Settled (ctx.Steady m replies fault) (consult call) :=
  (consult_gives call hfixed hsource).settled

/-- Of the settings, only the package source has a say in the release. -/
theorem applicationRelease_settled (application : String) :
    Settled (ctx.Steady m replies fault) (applicationRelease application) := by
  let source := sourceOf ((m.settings.get? application).getD [])
  obtain ⟨result, hrest⟩ : Settled (ctx.Steady m replies fault) (do
      let series ← consult (.series application)
      let release ←
        Program.ofExcept ((Release.ofSource source series).mapError CheckError.release)
      Program.log (releaseLine application source series release)
      return release) :=
    (consult_settled (.series application) trivial trivial).bind
      fun _ => (Program.settled_ofExcept _).bind fun _ => (Program.settled_pure _).after_log
  have hstart : ∀ {setting : Setting} {world : World},
      ctx.Steady m replies fault setting world.trace →
      (consult (.settings application)).start setting world =
          ((m.require application (.ok (((m.since world.trace).settings.get? application).getD
            []))).mapError .orchestrator, world.after [.called (.settings application)]) ∧
        ctx.Steady m replies fault setting
          (world.after [.called (.settings application)]).trace := by
    intro setting world h
    refine ⟨?_, h.called (.settings application) trivial (by simp)⟩
    rw [start_consult h.orchestrator _ (by simp), Mock.answer, Mock.require, Mock.require,
      h.agrees.knows]
  cases hknows : m.knows application with
  | false =>
    refine ⟨.error (.orchestrator (.applicationNotFound application)), Gives.bind_error ?_⟩
    intro setting world h
    refine ⟨_, (hstart h).1.trans ?_, (hstart h).2⟩
    simp [Mock.require, hknows]
  | true =>
    refine ⟨result, fun setting world h => ?_⟩
    obtain ⟨hsettings, hafter⟩ := hstart h
    obtain ⟨finish, hrun, hfinish⟩ := hrest setting _ hafter
    refine ⟨finish, ?_, hfinish⟩
    rw [Mock.require, hknows, if_pos rfl] at hsettings
    rw [applicationRelease, Program.start_bind_ok setting world hsettings, ← hrun,
      h.agrees.source]

theorem probe_settled (unit : String) : Settled (ctx.Steady m replies fault) (ctx.probe unit) := by
  refine (consult_settled (.address unit) trivial trivial).bind fun address => ?_
  refine (ctx.http.get_settled memoryless (ctx.unitUrl address) false).bind fun arrival => ?_
  exact Program.settled_pure _

theorem probeAll_settled (units : List String) :
    Settled (ctx.Steady m replies fault) (ctx.probeAll units) := by
  induction units with
  | nil => exact Program.settled_pure _
  | cons unit rest ih =>
    refine (probe_settled unit).bind fun (address, _, status) => .after_log ?_
    exact ih.bind fun more => Program.settled_pure _

theorem firstActive_settled (units : List String) :
    Settled (ctx.Steady m replies fault) (ctx.firstActive units) := by
  induction units with
  | nil => exact Program.settled_pure _
  | cons unit rest ih =>
    refine (probe_settled unit).bind fun (_, url, status) => ?_
    exact .ite (Program.settled_pure _).after_log ih.after_log

theorem requireActive_settled (scenario : String) :
    Settled (ctx.Steady m replies fault) (ctx.requireActive scenario) := by
  have hfind : Settled (ctx.Steady m replies fault) ctx.findActive :=
    (consult_settled (.units ctx.application) trivial trivial).bind
      fun units => firstActive_settled units
  refine hfind.bind fun url? => ?_
  cases url? with
  | some url => exact Program.settled_pure _
  | none => exact Program.settled_throw _

theorem verifyTopology_settled : Settled (ctx.Steady m replies fault) ctx.verifyTopology := by
  have hprobe : Settled (ctx.Steady m replies fault) ctx.probeUnits := by
    refine (consult_settled (.units ctx.application) trivial trivial).bind fun units => ?_
    exact (probeAll_settled units).bind fun probes => Program.settled_pure _
  refine hprobe.bind fun topology => ?_
  cases hverify : topology.verify with
  | ok _ => simpa only [hverify] using (Program.settled_pure topology).after_log
  | error complaint => simpa only [hverify] using Program.settled_throw _

theorem checkKeys_settled (application : String) (keys : List String) :
    Settled (ctx.Steady m replies fault) (checkKeys application keys) := by
  induction keys with
  | nil => exact Program.settled_pure _
  | cons key rest ih =>
    rw [checkKeys]
    let call : Call := .command application (keyCommand key)
    refine .after_log ((consult_settled call trivial trivial).bind fun outcome => ?_)
    cases outcome.succeeded with
    | true => exact ih
    | false => exact Program.settled_throw _ |>.bind fun _ => ih

theorem checkExpectedKeys_settled (application : String) :
    Settled (ctx.Steady m replies fault) (checkExpectedKeys application) := by
  refine (consult_settled .names trivial trivial).bind fun names => ?_
  exact (checkKeys_settled application _).bind fun _ => Program.settled_pure _

theorem verifyLogin_settled (url : String) :
    Settled (ctx.Steady m replies fault) (ctx.verifyLogin url) := by
  refine (ctx.http.get_settled memoryless (url ++ "/" ++ loginPath) false).bind fun login => ?_
  dsimp only
  split
  · exact Program.settled_throw _
  · refine (ctx.http.get_settled memoryless (url ++ "/" ++ metadataPath) false).bind
      fun metadata => ?_
    exact .ite ((Program.settled_throw _).bind fun _ => (Program.settled_pure _).after_log)
      (Program.settled_pure _).after_log

/-- Where no fault is set for this content, the file is always made. -/
theorem freshFile_succeeds {content : Text.Bytes} (hfault : fault (.file content) = none) :
    Program.Succeeds (ctx.Steady m replies fault)
      ((Program.freshFile content).mapError CheckError.file) := by
  intro setting world h
  rw [Program.start_mapError, Program.freshFile, Program.start_makeTemp, h.temps, hfault]
  exact ⟨_, _, rfl, memoryless.quiet (.made _ _) trivial h⟩

/-- Where a fault is set for this content, the file is never made. -/
theorem freshFile_fails {content : Text.Bytes} {e : FileError}
    (hfault : fault (.file content) = some e) :
    Gives (ctx.Steady m replies fault) ((Program.freshFile content).mapError CheckError.file)
      (.error (.file e)) := by
  intro setting world h
  rw [Program.start_mapError, Program.freshFile, Program.start_makeTemp, h.temps, hfault]
  exact ⟨world, rfl, h⟩

/-- The settings that single sign-on changes are no package sources, and where the metadata is kept
has no say in the verdict. -/
theorem checkSaml_settled : Settled (ctx.Steady m replies fault) ctx.checkSaml := by
  refine (Program.settled_ofExcept _).bind fun minimum => ?_
  refine (applicationRelease_settled _).bind fun release => ?_
  refine .ite (Program.settled_pure _).after_log ?_
  refine (requireActive_settled "saml").bind fun url => ?_
  -- the path of the metadata differs from run to run, but not what comes of telling it
  obtain ⟨result, hrest⟩ : ∃ result, ∀ file, Gives (ctx.Steady m replies fault) (do
      consult (.configure ctx.application (samlSettings url file))
      Program.log ⟨.info, samlTarget, "enabled SAML on dashboard", [("url", .text url)]⟩
      ctx.verifyLogin url) result := by
    have hconfigure : ∀ file, Gives (ctx.Steady m replies fault)
        (consult (.configure ctx.application (samlSettings url file)))
        ((m.answer (.configure ctx.application (samlSettings url file))).mapError .orchestrator) :=
      fun file => consult_gives _ trivial (samlSettings_omitSource url file)
    obtain ⟨result, hverify⟩ : Settled (ctx.Steady m replies fault) (ctx.verifyLogin url) :=
      verifyLogin_settled url
    cases hknows : m.knows ctx.application with
    | true =>
      refine ⟨result, fun file => ?_⟩
      have hfile := hconfigure file
      rw [Mock.answer, Mock.require, hknows, if_pos rfl] at hfile
      exact hfile.bind_ok hverify.after_log
    | false =>
      refine ⟨.error (.orchestrator (.applicationNotFound ctx.application)),
        fun file => Gives.bind_error ?_⟩
      have hfile := hconfigure file
      rw [Mock.answer, Mock.require, hknows, if_neg Bool.false_ne_true] at hfile
      exact hfile
  cases hfault : fault (.file (Text.encode (idpMetadata ctx.ca.text))) with
  | some e => exact ⟨.error (.file e), (freshFile_fails hfault).bind_error⟩
  | none => exact ⟨result, (freshFile_succeeds hfault).bind hrest⟩

end Context

end DashboardCheck
