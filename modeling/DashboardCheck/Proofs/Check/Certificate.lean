import DashboardCheck.Check.Context
import DashboardCheck.Proofs.World
import DashboardCheck.Proofs.Text.Lenient

/-!
# Which certificates are accepted

A file is accepted as a certificate exactly if the mark of one stands somewhere in its bytes, and it
is kept as it is. A suite is set up with nothing but such a file, which its client trusts.
-/
namespace DashboardCheck

open Text Http.Certificate

def IsMarked (file : Bytes) : Prop := ascii marker <:+: file

theorem ascii_marker : ascii marker = marker.toList.map byteOf := by
  decide +kernel

theorem occursIn_marker_iff (file : Bytes) :
    occursIn marker.toList (decodeLossy file).toList = true ↔ IsMarked file := by
  have hascii : marker.toList.all (fun c => decide (c.toNat < 0x80)) = true := by decide +kernel
  rw [IsMarked, ascii_marker]
  refine occursIn_decodeLossy_iff (fun c hc => ?_) (by decide +kernel)
  exact of_decide_eq_true (List.all_eq_true.mp hascii c hc)

namespace Certificate

variable {path : String} {pem : Bytes} {ca : Certificate} {setting : Setting}
  {world finish : World}

theorem check_eq_ok_iff : check path pem = .ok ca ↔ IsMarked pem ∧ ca = ⟨path, pem⟩ := by
  rw [check, ← occursIn_marker_iff]
  split_ifs with h
  · simp [h, eq_comm]
  · simp [h]

/-- A file is accepted if it can be read and is marked, and then it is kept byte for byte. -/
theorem ofFile_eq_ok_iff : (ofFile path).start setting world = (.ok ca, finish) ↔
    (world.disk.read path = .ok ca.pem ∧ IsMarked ca.pem ∧ ca.path = path) ∧
      finish = world.after [.read path] := by
  obtain ⟨place, bytes⟩ := ca
  have hstart : (ofFile path).start setting world =
      (match world.disk.read path with
        | .ok pem => check path pem
        | .error e => .error (.certificate path e.message), world.after [.read path]) := by
    rw [ofFile, Program.start_bind, Program.start_mapError, Program.start, Program.readFile]
    cases world.disk.read path <;> rfl
  rw [hstart, Prod.mk.injEq]
  refine and_congr ?_ eq_comm
  cases world.disk.read path with
  | error e => simp
  | ok pem =>
    rw [check_eq_ok_iff, Certificate.mk.injEq, Except.ok.injEq]
    constructor
    · rintro ⟨hmarked, rfl, rfl⟩
      exact ⟨rfl, hmarked, rfl⟩
    · rintro ⟨rfl, hmarked, rfl⟩
      exact ⟨hmarked, rfl, rfl⟩

/-- The certificate is what the file of its path holds, and it is marked. -/
structure IsRead (ca : Certificate) (disk : Disk) : Prop where
  content : disk.read ca.path = .ok ca.pem
  marked : IsMarked ca.pem

theorem isRead_of_ofFile (h : (ofFile path).start setting world = (.ok ca, finish)) :
    ca.IsRead finish.disk := by
  obtain ⟨⟨hread, hmarked, rfl⟩, rfl⟩ := ofFile_eq_ok_iff.mp h
  exact ⟨hread, hmarked⟩

theorem isRead_of_resolve {dashboard : Config.Dashboard}
    (h : (resolve dashboard).start setting world = (.ok ca, finish)) : ca.IsRead finish.disk := by
  rw [resolve] at h
  split_ifs at h with hlocal
  · rw [Program.start_bind_log] at h
    exact isRead_of_ofFile h
  · rw [ofUnit] at h
    obtain ⟨units, after, -, hrest⟩ := Program.start_bind_eq_ok h
    cases units with
    | nil => cases hrest
    | cons unit more =>
      obtain ⟨directory, made, -, hrest⟩ := Program.start_bind_eq_ok hrest
      obtain ⟨_, copied, -, hrest⟩ := Program.start_bind_eq_ok hrest
      rw [Program.start_bind_log] at hrest
      exact isRead_of_ofFile hrest

end Certificate

namespace Context

/-- The client of a suite trusts the certificate, which is a marked file just as it was read, and
the client could be made of it. -/
structure IsTrusting (ctx : Context) (disk : Disk) : Prop where
  read : ctx.ca.IsRead disk
  client : Http.Client.make (some ctx.ca.pem) ctx.config.requestTimeout
    (.ofConfig ctx.config.retry) = .ok ctx.http
  roots : ctx.http.roots = some ctx.ca.pem

/-- A context trusts the certificate that the disk holds after it was built. -/
theorem isTrusting_of_build {config : Config} {setting : Setting} {world finish : World}
    {ctx : Context} (h : (build config).start setting world = (.ok ctx, finish)) :
    ctx.config = config ∧ ctx.IsTrusting finish.disk := by
  rw [build, Program.start_bind_log] at h
  obtain ⟨ca, after, hca, hrest⟩ := Program.start_bind_eq_ok h
  obtain ⟨http, after', hhttp, hlast⟩ := Program.start_bind_eq_ok hrest
  obtain ⟨hmake, rfl⟩ := Prod.mk.inj hhttp
  obtain ⟨rfl, rfl⟩ : (⟨config, http, ca⟩ : Context) = ctx ∧ after = finish := by simpa using hlast
  refine ⟨rfl, Certificate.isRead_of_resolve hca, hmake, ?_⟩
  rw [Http.Client.make] at hmake
  split_ifs at hmake with hroots
  cases hmake
  rfl

end Context

end DashboardCheck
