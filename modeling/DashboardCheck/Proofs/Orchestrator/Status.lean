import DashboardCheck.Orchestrator.ModelStatus
import DashboardCheck.Proofs.Document.Table

/-!
# Statuses that were read

Whatever a status says, once it has been read its applications, their units and the units that
accompany them stand in the order of their names, each name once.
-/
namespace DashboardCheck

open Document

variable {depth : Nat} {node : Node}

/-- The units ascend, and so do those that accompany one of them. -/
structure ApplicationStatus.Ordered (app : ApplicationStatus) : Prop where
  units : Dict.Ascending app.units
  subordinates : ∀ unit ∈ app.units, Dict.Ascending unit.2.subordinates

/-- The applications ascend, and so does all that is listed under them. -/
structure ModelStatus.Ordered (s : ModelStatus) : Prop where
  applications : Dict.Ascending s.applications
  each : ∀ entry ∈ s.applications, entry.2.Ordered

theorem UnitStatus.ascending_of_read {levels : Nat} {unit : UnitStatus}
    (h : shapeUpTo levels depth node = .ok unit) : Dict.Ascending unit.subordinates := by
  cases levels with
  | zero => cases h
  | succ levels =>
    have hkeeps : (record (shapeUpTo levels)).Keeps (depth - 1)
        fun unit => Dict.Ascending unit.subordinates := by
      simp only [Shape.Record.Keeps, record, List.forall_mem_cons, List.not_mem_nil, false_implies,
        implies_true, and_true, Shape.withDefault_read_eq_ok_iff]
      refine ⟨?_, ?_, ?_⟩
      · rintro node _ ⟨address, -, rfl⟩ state hstate
        exact hstate
      · rintro node _ ⟨leader, -, rfl⟩ state hstate
        exact hstate
      · rintro node _ ⟨subordinates, hread, rfl⟩ state -
        exact Shape.dictOf_ascending hread
    exact Shape.Record.shape_keeps hkeeps List.Pairwise.nil h

theorem ApplicationStatus.ordered_of_read {app : ApplicationStatus}
    (h : shape depth node = .ok app) : app.Ordered := by
  have hkeeps : record.Keeps (depth - 1) Ordered := by
    simp only [Shape.Record.Keeps, record, List.forall_mem_cons, List.not_mem_nil, false_implies,
      implies_true, and_true, Shape.withDefault_read_eq_ok_iff]
    refine ⟨?_, ?_, ?_⟩
    · rintro node _ ⟨series, -, rfl⟩ state ⟨hunits, hsubordinates⟩
      exact ⟨hunits, hsubordinates⟩
    · rintro node _ ⟨base, -, rfl⟩ state ⟨hunits, hsubordinates⟩
      exact ⟨hunits, hsubordinates⟩
    · rintro node _ ⟨units, hread, rfl⟩ state -
      exact ⟨Shape.dictOf_ascending hread,
        Shape.dictOf_forall hread fun _ _ => UnitStatus.ascending_of_read⟩
  have hstart : Ordered record.start :=
    ⟨List.Pairwise.nil, fun _ hunit => absurd hunit List.not_mem_nil⟩
  exact Shape.Record.shape_keeps hkeeps hstart h

namespace ModelStatus

theorem ordered_of_read {s : ModelStatus} (h : shape depth node = .ok s) : s.Ordered := by
  have hkeeps : record.Keeps (depth - 1) Ordered := by
    simp only [Shape.Record.Keeps, record, List.forall_mem_cons, List.not_mem_nil, false_implies,
      implies_true, and_true, Shape.withDefault_read_eq_ok_iff]
    rintro node _ ⟨applications, hread, rfl⟩ state -
    exact ⟨Shape.dictOf_ascending hread,
      Shape.dictOf_forall hread fun _ _ => ApplicationStatus.ordered_of_read⟩
  have hstart : Ordered record.start :=
    ⟨List.Pairwise.nil, fun _ hentry => absurd hentry List.not_mem_nil⟩
  exact Shape.Record.shape_keeps hkeeps hstart h

/-- A status is what a text writes. -/
theorem parse_eq_ok_iff {stdout : String} {s : ModelStatus} :
    parse stdout = .ok s ↔ Json.read shape stdout = .ok s := by
  rw [parse]
  cases Json.read shape stdout <;> simp [Except.mapError]

/-- Every status that a text writes is in order. -/
theorem parse_ordered {stdout : String} {s : ModelStatus} (h : parse stdout = .ok s) :
    s.Ordered :=
  ordered_of_read (Json.read_eq_ok_iff.mp (parse_eq_ok_iff.mp h)).1

end ModelStatus

end DashboardCheck
