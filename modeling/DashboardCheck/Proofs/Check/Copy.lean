import DashboardCheck.Orchestrator.Mock
import DashboardCheck.Proofs.Check.Certificate
import DashboardCheck.Proofs.Check.Paths
import DashboardCheck.Proofs.Check.Suite
import DashboardCheck.Proofs.Course

/-!
# Where a copied certificate goes

Without a local file the certificate is copied from the first unit into a new directory, under a
name that leads out of no directory, and read back from there. Nothing else is made, copied or read,
however the path on the unit is spelled.
-/
namespace DashboardCheck.Certificate

open Program (Does)

variable {setting : Setting} {world : World}

def inFile (path : String) (content : Except FileError Text.Bytes) :
    Except CheckError Certificate :=
  match content with
  | .ok pem => check path pem
  | .error e => .error (.certificate path e.message)

theorem does_ofFile (path : String) :
    Does setting world (ofFile path) (inFile path (world.disk.read path)) [.read path] := by
  have hread : Does setting world
      ((Program.readFile path).mapError fun e => CheckError.certificate path e.message)
      ((world.disk.read path).mapError fun e => CheckError.certificate path e.message)
      [.read path] := rfl
  cases hcontent : world.disk.read path with
  | error e =>
    rw [hcontent] at hread
    exact hread.bind_error
  | ok pem =>
    rw [hcontent] at hread
    exact hread.bind_ok (Program.does_ofExcept _)

/-- What comes back of a path is the path. -/
theorem inFile_eq_ok {path : String} {content : Except FileError Text.Bytes} {ca : Certificate}
    (h : inFile path content = .ok ca) : ca.path = path ∧ content = .ok ca.pem := by
  cases content with
  | error e => cases h
  | ok pem =>
    obtain ⟨-, rfl⟩ := check_eq_ok_iff.mp h
    exact ⟨rfl, rfl⟩

/-- The world in which a directory for the copy is made: the units are known. -/
def listed (setting : Setting) (world : World) (application : String) : World :=
  setting.replay world [.called (.units application)]

/-- What is done before the copy: the units are asked for, and a directory is made. -/
def preparing (application directory : String) : Trace :=
  [.called (.units application), .made directory .directory]

def copying (unit remotePath path : String) : Program CheckError Certificate := do
  (Program.ask (.copy unit remotePath path)).mapError fun e =>
    .certificate remotePath s!"copy from {unit}: {e.message}"
  Program.log ⟨.info, logTarget, "fetched CA certificate",
    [("unit", .text unit), ("remote", .text remotePath), ("local", .text path)]⟩
  ofFile path

theorem does_copy (setting : Setting) (world : World) (unit remotePath path : String) :
    Does setting world
      ((Program.ask (.copy unit remotePath path)).mapError fun e =>
        CheckError.certificate remotePath s!"copy from {unit}: {e.message}")
      ((setting.orchestrator world (.copy unit remotePath path)).1.mapError fun e =>
        .certificate remotePath s!"copy from {unit}: {e.message}")
      [.called (.copy unit remotePath path)] :=
  (Program.does_ask _).mapError _

/-- A copy that fails is told with the path on the unit, and nothing is read. -/
theorem does_copying_error {unit remotePath path : String} {e : OrchestratorError}
    (h : (setting.orchestrator world (.copy unit remotePath path)).1 = .error e) :
    Does setting world (copying unit remotePath path)
      (.error (.certificate remotePath s!"copy from {unit}: {e.message}"))
      [.called (.copy unit remotePath path)] := by
  have hcopy := does_copy setting world unit remotePath path
  rw [h] at hcopy
  exact hcopy.bind_error

/-- After a copy the file that it wrote is read, as the disk is then. -/
theorem does_copying_ok {unit remotePath path : String}
    (h : (setting.orchestrator world (.copy unit remotePath path)).1 = .ok ()) :
    Does setting world (copying unit remotePath path)
      (inFile path ((setting.replay world [.called (.copy unit remotePath path)]).disk.read path))
      [.called (.copy unit remotePath path), .read path] := by
  have hcopy := does_copy setting world unit remotePath path
  rw [h] at hcopy
  exact hcopy.bind_ok (.after_log (does_ofFile path))

/-- With a unit to copy from, a new directory is made for the copy. -/
theorem does_ofUnit {application remotePath unit : String} {more : List String}
    {result : Except CheckError Certificate} {events : Trace}
    (hunits : (setting.orchestrator world (.units application)).1 = .ok (unit :: more))
    (hmade : setting.tempFault (listed setting world application) .directory = none)
    (hcopying : Does setting
      (setting.replay world (preparing application (setting.temp world.trace.tempsMade)))
      (copying unit remotePath
        (setting.temp world.trace.tempsMade ++ "/" ++ copyName remotePath)) result events) :
    Does setting world (ofUnit application remotePath) result
      (preparing application (setting.temp world.trace.tempsMade) ++ events) := by
  have hasked : Does setting world (consult (.units application)) _ _ := does_consult _
  have hdirectory := (Program.does_makeTemp hmade).mapError CheckError.file
  have hcount : (listed setting world application).trace.tempsMade = world.trace.tempsMade := by
    rw [listed, Setting.replay_trace]
    simp [Trace.tempsMade]
  rw [hunits] at hasked
  rw [hcount] at hdirectory
  exact hasked.bind_ok (hdirectory.bind_ok hcopying)

/-- Without a directory there is no copy. -/
theorem does_ofUnit_unmade {application remotePath unit : String} {more : List String}
    {e : FileError}
    (hunits : (setting.orchestrator world (.units application)).1 = .ok (unit :: more))
    (hunmade : setting.tempFault (listed setting world application) .directory = some e) :
    Does setting world (ofUnit application remotePath) (.error (.file e))
      [.called (.units application)] := by
  have hasked : Does setting world (consult (.units application)) _ _ := does_consult _
  have hdirectory := (Program.does_makeTemp_error hunmade).mapError CheckError.file
  rw [hunits] at hasked
  exact hasked.bind_ok hdirectory.bind_error

/-- What fetching a certificate comes to and does, if it is copied from this unit to this path in
this directory. -/
structure FetchedTo (setting : Setting) (world : World) (c : Config.Dashboard)
    (unit directory path : String) (result : Except CheckError Certificate) (events : Trace) :
    Prop where
  /-- If no directory can be made, nothing is copied and nothing is read. -/
  unmade : ∀ e, setting.tempFault (listed setting world c.application) .directory = some e →
    events = [.called (.units c.application)] ∧ result = .error (.file e)
  /-- If it cannot be copied, that is the end of it. -/
  refused : setting.tempFault (listed setting world c.application) .directory = none →
    ∀ e, (setting.orchestrator (setting.replay world (preparing c.application directory))
      (.copy unit c.remoteCaCert path)).1 = .error e →
    events = preparing c.application directory ++ [.called (.copy unit c.remoteCaCert path)] ∧
      result = .error (.certificate c.remoteCaCert s!"copy from {unit}: {e.message}")
  /-- Otherwise the copy is read, as the copying left it. -/
  copied : setting.tempFault (listed setting world c.application) .directory = none →
    (setting.orchestrator (setting.replay world (preparing c.application directory))
      (.copy unit c.remoteCaCert path)).1 = .ok () →
    events = preparing c.application directory ++
        [.called (.copy unit c.remoteCaCert path), .read path] ∧
      result = inFile path ((setting.replay world (preparing c.application directory ++
        [.called (.copy unit c.remoteCaCert path)])).disk.read path)
  /-- A certificate comes from nowhere else. -/
  accepted : ∀ ca, result = .ok ca → ca.path = path

section Fetched

variable {c : Config.Dashboard} {unit directory path : String}

/-- Without a temporary directory nothing is asked of the orchestrator but the units. -/
theorem FetchedTo.of_unmade {e : FileError}
    (hunmade : setting.tempFault (listed setting world c.application) .directory = some e) :
    FetchedTo setting world c unit directory path (.error (.file e))
      [.called (.units c.application)] where
  unmade := by
    intro e' he'
    cases hunmade.symm.trans he'
    exact ⟨rfl, rfl⟩
  refused := fun hmade => by cases hunmade.symm.trans hmade
  copied := fun hmade => by cases hunmade.symm.trans hmade
  accepted := fun _ hca => by cases hca

variable (hmade : setting.tempFault (listed setting world c.application) .directory = none)

include hmade

/-- A copy that the orchestrator refuses is the last thing that is done. -/
theorem FetchedTo.of_refused {e : OrchestratorError}
    (h : (setting.orchestrator (setting.replay world (preparing c.application directory))
      (.copy unit c.remoteCaCert path)).1 = .error e) :
    FetchedTo setting world c unit directory path
      (.error (.certificate c.remoteCaCert s!"copy from {unit}: {e.message}"))
      (preparing c.application directory ++ [.called (.copy unit c.remoteCaCert path)]) where
  unmade := fun _ hunmade => by cases hmade.symm.trans hunmade
  refused := by
    intro _ e' hrefused
    cases h.symm.trans hrefused
    exact ⟨rfl, rfl⟩
  copied := fun _ hcopied => by cases h.symm.trans hcopied
  accepted := fun _ hca => by cases hca

/-- A copy that was made is read, and its content decides. -/
theorem FetchedTo.of_copied
    (h : (setting.orchestrator (setting.replay world (preparing c.application directory))
      (.copy unit c.remoteCaCert path)).1 = .ok ()) :
    FetchedTo setting world c unit directory path
      (inFile path ((setting.replay world (preparing c.application directory ++
        [.called (.copy unit c.remoteCaCert path)])).disk.read path))
      (preparing c.application directory ++
        [.called (.copy unit c.remoteCaCert path), .read path]) where
  unmade := fun _ hunmade => by cases hmade.symm.trans hunmade
  refused := fun _ _ hrefused => by cases h.symm.trans hrefused
  copied := fun _ _ => ⟨rfl, rfl⟩
  accepted := fun _ hca => (inFile_eq_ok hca).1

end Fetched

/-- Where the application has a unit and no certificate is named, fetching goes one of its ways,
from the first unit. -/
theorem exists_fetchedTo {c : Config.Dashboard} {unit : String} {more : List String}
    (hlocal : c.caCert = "")
    (hunits : (setting.orchestrator world (.units c.application)).1 = .ok (unit :: more)) :
    ∃ result events, Does setting world (resolve c) result events ∧
      FetchedTo setting world c unit (setting.temp world.trace.tempsMade)
        (setting.temp world.trace.tempsMade ++ "/" ++ copyName c.remoteCaCert) result events := by
  have hresolve : resolve c = ofUnit c.application c.remoteCaCert := by
    rw [resolve, hlocal]
    rfl
  rw [hresolve]
  cases hfault : setting.tempFault (listed setting world c.application) .directory with
  | some e => exact ⟨_, _, does_ofUnit_unmade hunits hfault, .of_unmade hfault⟩
  | none =>
    have hcourse := @does_ofUnit setting world c.application c.remoteCaCert unit more
    generalize setting.temp world.trace.tempsMade = directory at hcourse ⊢
    generalize directory ++ "/" ++ copyName c.remoteCaCert = path at hcourse ⊢
    cases hanswer : (setting.orchestrator
        (setting.replay world (preparing c.application directory))
        (.copy unit c.remoteCaCert path)).1 with
    | error e =>
      exact ⟨_, _, hcourse hunits hfault (does_copying_error hanswer), .of_refused hfault hanswer⟩
    | ok _ =>
      have hread := does_copying_ok hanswer
      rw [← Setting.replay_append] at hread
      exact ⟨_, _, hcourse hunits hfault hread, .of_copied hfault hanswer⟩

/-- Without a local file, and with a unit to copy from, the file that the configuration names is
copied from the first unit, and the copy is what is read, unless there is no directory for it. It is
the next new directory's, under the last name of the path if that ends with one. Whatever the path,
the name is one name that leads nowhere else, so on any disk the copy has its place right in that
directory. -/
theorem resolve_stays_inside {c : Config.Dashboard} {setting : Setting} {world : World}
    {unit : String} {more : List String} (hlocal : c.caCert = "")
    (hunits : (setting.orchestrator world (.units c.application)).1 = .ok (unit :: more)) :
    ∃ directory name result events, directory = setting.temp world.trace.tempsMade ∧
      Does setting world (resolve c) result events ∧
      FetchedTo setting world c unit directory (directory ++ "/" ++ name) result events ∧
      (name ≠ "" ∧ '/' ∉ name.toList ∧ name ≠ "." ∧ name ≠ "..") ∧
      (∀ last, EndsWithName c.remoteCaCert last → name = last) ∧
      ((∀ last, ¬ EndsWithName c.remoteCaCert last) → name = "ca.crt") ∧
      (directory ≠ "" → ∀ (disk : Disk) place, disk.resolve (directory ++ "/" ++ name) = .ok place →
        ∃ home, disk.resolve directory = .ok home ∧ place = home ++ [name]) := by
  have hname := isPlainName_copyName c.remoteCaCert
  obtain ⟨result, events, hdoes, hfetched⟩ := exists_fetchedTo hlocal hunits
  refine ⟨_, copyName c.remoteCaCert, result, events, rfl, hdoes, hfetched,
    ⟨hname.nonempty, hname.whole, hname.notHere, hname.notUp⟩, fun last => copyName_eq,
    copyName_other, ?_⟩
  exact fun hdirectory disk place => Disk.resolve_name hname hdirectory

/-- A dashboard whose certificate is configured by a path that leads out of its directory. -/
def leadingOut : Mock :=
  (Mock.empty.withUnits "ceph-dashboard" ["10.0.0.1", "10.0.0.2"]).withFile "ceph-dashboard/0"
    "/etc/ssl/../.." "-----BEGIN CERTIFICATE-----"

/-- The copy of such a path has the name that is used where there is none. -/
theorem resolve_stays_inside_leading_out :
    let c : Config.Dashboard := { Config.default.dashboard with remoteCaCert := "/etc/ssl/../.." }
    let setting : Setting :=
      { offline with orchestrator := leadingOut.orchestrator, temp := fun _ => "/tmp" }
    let world : World := ⟨[], .ofFiles ["work"] []⟩
    (c.caCert = "" ∧ (setting.orchestrator world (.units c.application)).1 =
        .ok ["ceph-dashboard/0", "ceph-dashboard/1"]) ∧
      Does setting world (resolve c)
        (.ok ⟨"/tmp/ca.crt", Text.encode "-----BEGIN CERTIFICATE-----"⟩)
        [.called (.units "ceph-dashboard"), .made "/tmp" .directory,
          .called (.copy "ceph-dashboard/0" "/etc/ssl/../.." "/tmp/ca.crt"),
          .read "/tmp/ca.crt"] := by
  intro c setting world
  have hlocal : c.caCert = "" := rfl
  have hunits : (setting.orchestrator world (.units c.application)).1 =
      .ok ["ceph-dashboard/0", "ceph-dashboard/1"] := by decide +kernel
  have hnameless : ∀ last, ¬ EndsWithName c.remoteCaCert last := by
    have hnone : fileName? c.remoteCaCert = none := by decide +kernel
    intro last hlast
    cases hnone.symm.trans (fileName?_eq_some_iff.mpr hlast)
  obtain ⟨directory, name, result, events, hdirectory, hdoes, hfetched, -, -, hother, -⟩ :=
    resolve_stays_inside hlocal hunits
  obtain rfl : directory = "/tmp" := hdirectory
  obtain rfl : name = "ca.crt" := hother hnameless
  have hcopy : (setting.orchestrator (setting.replay world (preparing c.application "/tmp"))
      (.copy "ceph-dashboard/0" c.remoteCaCert "/tmp/ca.crt")).1 = .ok () := by decide +kernel
  obtain ⟨hevents, hresult⟩ := hfetched.copied rfl hcopy
  have hread : inFile "/tmp/ca.crt" ((setting.replay world (preparing c.application "/tmp" ++
      [.called (.copy "ceph-dashboard/0" c.remoteCaCert "/tmp/ca.crt")])).disk.read
        "/tmp/ca.crt") = .ok ⟨"/tmp/ca.crt", Text.encode "-----BEGIN CERTIFICATE-----"⟩ := by
    decide +kernel
  rw [hevents, hresult.trans hread] at hdoes
  exact ⟨⟨hlocal, hunits⟩, hdoes⟩

end DashboardCheck.Certificate
