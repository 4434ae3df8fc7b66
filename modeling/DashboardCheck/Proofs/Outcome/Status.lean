import DashboardCheck.Outcome.Status
import DashboardCheck.Proofs.Json.RoundTrip
import DashboardCheck.Proofs.Text.Lower

/-!
# The forms of a status

A status has a text to show and a JSON form, and both are the same. A report may spell it in any
case and between blanks; the document form has to be exact. Either way no status is read that hides
a known one behind its name, and all others are read back.
-/
namespace DashboardCheck.ActionStatus

open Document Json

theorem toJson_eq (status : ActionStatus) : status.toJson = .string status.text := by
  cases status <;> rfl

def knownNames : List String := ["completed", "failed", "pending", "running", "cancelled"]

/-- A known name that is kept as that of an unknown status. -/
def IsMasked (status : ActionStatus) : Prop := ∃ name ∈ knownNames, status = other name

theorem named?_eq_none_iff {name : String} : named? name = none ↔ name ∉ knownNames := by
  unfold named?
  split <;> simp_all [knownNames]

theorem named?_eq_some {name : String} {status : ActionStatus} (h : named? name = some status) :
    status.text = name ∧ ∀ other, status ≠ .other other := by
  unfold named? at h
  split at h <;> cases h <;> exact ⟨rfl, by simp⟩

theorem ofText_spec (name : String) : (ofText name).text = name ∧ ¬(ofText name).IsMasked := by
  rw [ofText]
  cases hname : named? name with
  | none =>
    refine ⟨rfl, ?_⟩
    rintro ⟨known, hknown, heq⟩
    obtain rfl : name = known := ActionStatus.other.inj heq
    exact named?_eq_none_iff.mp hname hknown
  | some status =>
    obtain ⟨htext, hknown⟩ := named?_eq_some hname
    refine ⟨htext, ?_⟩
    rintro ⟨other, -, heq⟩
    exact hknown other heq

theorem ofText_text_iff {status : ActionStatus} :
    ofText status.text = status ↔ ¬status.IsMasked := by
  constructor
  · intro h
    rw [← h]
    exact (ofText_spec status.text).2
  · intro h
    cases status with
    | other name =>
      have hname : name ∉ knownNames := fun hknown => h ⟨name, hknown, rfl⟩
      rw [text, ofText, named?_eq_none_iff.mpr hname]
      rfl
    | _ => rfl

theorem ofReport_eq_ofText {report : String} (h : Text.lower (Text.trim report) ≠ "aborted") :
    ofReport report = ofText (Text.lower (Text.trim report)) := by
  simp only [ofReport, if_neg h, ofText]

theorem ofReport_aborted {report : String} (h : Text.lower (Text.trim report) = "aborted") :
    ofReport report = cancelled := by
  simp only [ofReport, if_pos h]

/-- A status is read as completed exactly if it says so in any case and between blanks. -/
theorem ofReport_eq_completed_iff (report : String) :
    ofReport report = completed ↔ Text.lower (Text.trim report) = "completed" := by
  by_cases haborted : Text.lower (Text.trim report) = "aborted"
  · rw [ofReport_aborted haborted, haborted]
    simp
  · rw [ofReport_eq_ofText haborted]
    constructor
    · intro h
      have htext := (ofText_spec (Text.lower (Text.trim report))).1
      rw [h] at htext
      exact htext.symm
    · intro h
      rw [h]
      rfl

theorem not_isMasked_ofReport (report : String) : ¬(ofReport report).IsMasked := by
  by_cases haborted : Text.lower (Text.trim report) = "aborted"
  · rw [ofReport_aborted haborted]
    rintro ⟨_, -, heq⟩
    cases heq
  · rw [ofReport_eq_ofText haborted]
    exact (ofText_spec _).2

/-- A status that was read of a report is what its text would be read as. -/
theorem ofReport_text (report : String) : ofReport (ofReport report).text = ofReport report := by
  by_cases haborted : Text.lower (Text.trim report) = "aborted"
  · rw [ofReport_aborted haborted]
    decide
  · have hsame : Text.lower (Text.trim (Text.lower (Text.trim report))) =
        Text.lower (Text.trim report) := by simp
    have haborted' : Text.lower (Text.trim (Text.lower (Text.trim report))) ≠ "aborted" := by
      rwa [hsame]
    rw [ofReport_eq_ofText haborted, (ofText_spec _).1, ofReport_eq_ofText haborted', hsame]

/-- A text is read as the status of exactly this name. -/
theorem shape_of_any {depth : Nat} {node : Node} {s : String}
    (h : Shape.any depth node = .ok (.string s)) : shape depth node = .ok (ofText s) := by
  rw [shape, h]
  rfl

theorem not_isMasked_of_shape {depth : Nat} {node : Node} {status : ActionStatus}
    (h : shape depth node = .ok status) : ¬status.IsMasked := by
  rw [shape] at h
  cases hvalue : Shape.any depth node with
  | error failure =>
    rw [hvalue] at h
    cases h
  | ok value =>
    rw [hvalue] at h
    simp only [bind, Except.bind] at h
    split at h
    · obtain rfl := Except.ok.inj h
      exact (ofText_spec _).2
    · split at h
      · next hname =>
        obtain rfl := Except.ok.inj h
        rintro ⟨other, -, heq⟩
        exact (named?_eq_some hname).2 other heq
      · cases h
    · cases h

theorem read_toJson (status : ActionStatus) :
    status.toJson.read shape = .ok (ofText status.text) := by
  rw [toJson_eq]
  rfl

theorem read_compact (status : ActionStatus) :
    Json.read shape status.toJson.compact = .ok (ofText status.text) := by
  rw [toJson_eq]
  obtain ⟨node, hread, hnode⟩ :=
    readText_compact (.string depthLimit status.text) (.string status.text)
  refine read_eq_ok_iff.mpr ⟨?_, by rw [hread]⟩
  rw [hread]
  exact shape_of_any (hnode depthLimit (.string depthLimit status.text))

end DashboardCheck.ActionStatus
