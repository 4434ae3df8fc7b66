import DashboardCheck.Proofs.Json.Value
import DashboardCheck.Proofs.Orchestrator.Generations
import DashboardCheck.Proofs.Orchestrator.Numbering

/-!
# Units that are told by a key

An entry that does not tell its unit is about the unit of its key. The older generation of the tool
has the tag of the unit there, the newer one its name. A tag is read as the unit that it stands for,
whatever dashes and digits are in the name of the application. A name is read as itself unless it
starts as tags do; then that start is lost.
-/
namespace DashboardCheck

namespace Text

theorem cutLast_eq_some {sep : Char} {cs a b : List Char} (h : cutLast sep cs = some (a, b)) :
    cs = a ++ sep :: b ∧ sep ∉ b := by
  obtain ⟨⟨back, front⟩, hcut, hsides⟩ := Option.map_eq_some_iff.mp h
  obtain ⟨rfl, rfl⟩ := Prod.mk.inj hsides
  obtain ⟨hreverse, hnot⟩ := cutFirst_eq_some hcut
  constructor
  · simpa using congrArg List.reverse hreverse
  · simpa using hnot

/-- A start without the separator is a start of what stands before the separator. -/
theorem isPrefix_of_append {sep : Char} {start a b : List Char} (hsep : sep ∉ start)
    (h : start <+: a ++ sep :: b) : start <+: a := by
  rcases List.prefix_or_prefix_of_prefix h (List.prefix_append a (sep :: b)) with hshort | hlong
  · exact hshort
  · obtain ⟨more, rfl⟩ := hlong
    rw [List.prefix_append_right_inj] at h
    cases more with
    | nil => simp
    | cons c more =>
      obtain ⟨rfl, -⟩ := List.cons_prefix_cons.mp h
      simp at hsep

end Text

def unitTag (app : String) (n : Nat) : String := s!"unit-{app}-{n}"

namespace Report

open Json

variable {app rest : String} {n : Nat}

theorem toList_unitName (app : String) (n : Nat) :
    (unitName app n).toList = app.toList ++ '/' :: Number.digitsOf n := by
  simp [unitName, Number.digitsOf, toString]

theorem toList_unitTag (app : String) (n : Nat) :
    (unitTag app n).toList = "unit-".toList ++ (app.toList ++ '-' :: Number.digitsOf n) := by
  simp [unitTag, Number.digitsOf, toString]

/-- A tag is cut at its last dash, so the application may have dashes of its own. -/
theorem unitOfTag_unitTag (app : String) (n : Nat) :
    unitOfTag (unitTag app n) = unitName app n := by
  rw [unitOfTag, toList_unitTag, Text.stripStart_append]
  dsimp only
  rw [Text.cutLast_append _ (Number.not_mem_digitsOf rfl n)]
  dsimp only
  rw [if_pos (Number.all_isDigit_digitsOf n), ← toList_unitName, String.ofList_toList]

theorem unitOfTag_unitName (h : ¬ "unit-".toList <+: app.toList) :
    unitOfTag (unitName app n) = unitName app n := by
  refine unitOfTag_of_not_tag fun hstart => h ?_
  rw [toList_unitName] at hstart
  exact Text.isPrefix_of_append (by decide) hstart

/-- What stands behind the last dash of a name is never a number, since a slash comes later. -/
theorem unitOfTag_unitName_tag (rest : String) (n : Nat) :
    unitOfTag (unitName ("unit-" ++ rest) n) = unitName rest n := by
  have hstrip : (unitName ("unit-" ++ rest) n).toList =
      "unit-".toList ++ (unitName rest n).toList := by
    simp [toList_unitName]
  rw [unitOfTag, hstrip, Text.stripStart_append]
  dsimp only
  cases hcut : Text.cutLast '-' (unitName rest n).toList with
  | none => exact String.ofList_toList
  | some sides =>
    obtain ⟨before, behind⟩ := sides
    obtain ⟨hsplit, -⟩ := Text.cutLast_eq_some hcut
    have hslash : '/' ∈ behind := by
      rw [toList_unitName] at hsplit
      rcases List.append_eq_append_iff.mp hsplit with ⟨more, -, hmore⟩ | ⟨more, -, hmore⟩
      · have hdash : '-' ∈ '/' :: Number.digitsOf n := by simp [hmore]
        simp [Number.not_mem_digitsOf (c := '-') rfl] at hdash
      · have hmem : '/' ∈ '-' :: behind := by simp [hmore]
        simpa using hmem
    have hdigits : ¬ behind.all Number.isDigit = true := by
      intro hall
      exact absurd (List.all_eq_true.mp hall '/' hslash) (by decide)
    dsimp only
    rw [if_neg hdigits]
    exact String.ofList_toList

/-- An entry that does not tell its unit is about that of its key. -/
theorem unitOf_of_untold {entry : Value} (hid : entry.get? "UnitId" = none)
    (hname : entry.get? "unit" = none) (key : String) : unitOf key entry = unitOfTag key := by
  simp [unitOf, firstOf, hid, hname]

def codeOf? (entry : Value) : Option Int :=
  (firstOf ((entry.get? "results").getD entry) ["return-code", "Code", "code"]).bind exitCode?

/-- What is read of a text whose first entry is this one is about this unit: an action if the entry
has a status, a command if it has a code, and otherwise the complaint that there is none. -/
structure IsReadOf (text : String) (entry : Value) (unit : String) : Prop where
  action : ∀ status, entry.get? "status" = some (.string status) →
    ∃ outcome, parseAction text = .ok outcome ∧ outcome.unit = unit
  noAction : (∀ status, entry.get? "status" ≠ some (.string status)) → parseAction text =
    .error (.output "juju run" s!"action result for '{unit}' has no status")
  command : ∀ code, codeOf? entry = some code →
    ∃ outcome, parseExec text = .ok outcome ∧ outcome.unit = unit ∧ outcome.code = code
  noCommand : codeOf? entry = none → parseExec text =
    .error (.output "juju exec" s!"command result for '{unit}' has no return code")

section Reading

variable {text text' key key' : String} {entry : Value} {more more' : List (String × Value)}
  (hparse : Json.parse text = .ok (.object ((key, entry) :: more)))
include hparse

theorem isReadOf_unitOf : IsReadOf text entry (unitOf key entry) where
  action status hstatus := by
    simp [parseAction, parseOutput_ok hparse, bind, Except.bind, firstMember?, hstatus,
      Value.text?, pure, Except.pure]
  noAction hnone := by
    have hstatus : (entry.get? "status").bind Value.text? = none := by
      cases hvalue : entry.get? "status" with
      | none => rfl
      | some value =>
        cases value with
        | string status => exact absurd hvalue (hnone status)
        | _ => rfl
    simp [parseAction, parseOutput_ok hparse, bind, Except.bind, firstMember?, hstatus, throw,
      throwThe, MonadExceptOf.throw]
  command code hcode := by
    rw [codeOf?] at hcode
    simp [parseExec, parseOutput_ok hparse, bind, Except.bind, firstMember?, hcode, pure,
      Except.pure]
  noCommand hcode := by
    rw [codeOf?] at hcode
    simp [parseExec, parseOutput_ok hparse, bind, Except.bind, firstMember?, hcode, throw,
      throwThe, MonadExceptOf.throw]

/-- Of a key nothing but the unit that it stands for makes a difference. -/
theorem parse_eq_of_unitOf (hparse' : Json.parse text' = .ok (.object ((key', entry) :: more')))
    (hunit : unitOf key entry = unitOf key' entry) :
    parseAction text = parseAction text' ∧ parseExec text = parseExec text' := by
  constructor
  · simp only [parseAction, parseOutput_ok hparse, parseOutput_ok hparse', bind, Except.bind,
      firstMember?, hunit]
  · simp only [parseExec, parseOutput_ok hparse, parseOutput_ok hparse', bind, Except.bind,
      firstMember?, hunit]

end Reading

/-- An entry that does not tell its unit is about the unit of its tag. It is about the unit of its
name just as well, and then all that is read of it is the same, unless the name starts as tags do:
then that start is lost. -/
theorem unit_told_by_key (app : String) (n : Nat) {entry : Value}
    (hid : entry.get? "UnitId" = none) (hname : entry.get? "unit" = none) :
    (∀ text more, Json.parse text = .ok (.object ((unitTag app n, entry) :: more)) →
      IsReadOf text entry (unitName app n)) ∧
    (∀ text more, Json.parse text = .ok (.object ((unitName app n, entry) :: more)) →
      (¬ "unit-".toList <+: app.toList → IsReadOf text entry (unitName app n)) ∧
      ∀ rest, app = "unit-" ++ rest → IsReadOf text entry (unitName rest n)) ∧
    (∀ older newer more more',
      Json.parse older = .ok (.object ((unitTag app n, entry) :: more)) →
      Json.parse newer = .ok (.object ((unitName app n, entry) :: more')) →
      ¬ "unit-".toList <+: app.toList →
      parseAction older = parseAction newer ∧ parseExec older = parseExec newer) := by
  have hkey := unitOf_of_untold hid hname
  have htag : unitOf (unitTag app n) entry = unitName app n := by
    rw [hkey, unitOfTag_unitTag]
  refine ⟨fun text more hparse => ?_, fun text more hparse => ⟨fun hplain => ?_, ?_⟩, ?_⟩
  · rw [← htag]
    exact isReadOf_unitOf hparse
  · have hread := isReadOf_unitOf hparse
    rwa [hkey, unitOfTag_unitName hplain] at hread
  · rintro rest rfl
    have hread := isReadOf_unitOf hparse
    rwa [hkey, unitOfTag_unitName_tag] at hread
  · intro older newer more more' holder hnewer hplain
    refine parse_eq_of_unitOf holder hnewer ?_
    rw [htag, hkey, unitOfTag_unitName hplain]

/-- An entry that tells a status and a code, but not its unit. -/
def untoldEntry : Value :=
  .object [("code", .integer 0), ("status", .string "completed")]

/-- A text whose only entry is such a one. -/
def untoldText (key : String) : String :=
  "\x7b\"" ++ key ++ "\": \x7b\"status\": \"completed\", \"code\": 0\x7d\x7d"

/-- A key of both forms, for an application with dashes in its name. -/
theorem unit_told_by_key_dashed :
    untoldEntry.get? "UnitId" = none ∧ untoldEntry.get? "unit" = none ∧
      ¬ "unit-".toList <+: "a-1-unit".toList ∧
      Json.parse (untoldText "unit-a-1-unit-10") =
        .ok (.object [("unit-a-1-unit-10", untoldEntry)]) ∧
      Json.parse (untoldText "a-1-unit/10") = .ok (.object [("a-1-unit/10", untoldEntry)]) ∧
      IsReadOf (untoldText "unit-a-1-unit-10") untoldEntry "a-1-unit/10" ∧
      IsReadOf (untoldText "a-1-unit/10") untoldEntry "a-1-unit/10" := by
  have hid : untoldEntry.get? "UnitId" = none := rfl
  have hname : untoldEntry.get? "unit" = none := rfl
  have hplain : ¬ "unit-".toList <+: "a-1-unit".toList := by decide
  have htag : Json.parse (untoldText "unit-a-1-unit-10") =
      .ok (.object [("unit-a-1-unit-10", untoldEntry)]) := parse_of_writes (by decide +kernel)
  have hnamed : Json.parse (untoldText "a-1-unit/10") =
      .ok (.object [("a-1-unit/10", untoldEntry)]) := parse_of_writes (by decide +kernel)
  obtain ⟨hread, hread', -⟩ := unit_told_by_key "a-1-unit" 10 hid hname
  exact ⟨hid, hname, hplain, htag, hnamed, hread _ _ htag, (hread' _ _ hnamed).1 hplain⟩

/-- The unit of an application whose name starts as tags do is told by its name, and read as another
one. -/
theorem unit_name_loses_start :
    unitName "unit-x" 0 = "unit-x/0" ∧
      untoldEntry.get? "UnitId" = none ∧ untoldEntry.get? "unit" = none ∧
      Json.parse (untoldText "unit-x/0") = .ok (.object [("unit-x/0", untoldEntry)]) ∧
      (parseAction (untoldText "unit-x/0")).map ActionOutcome.unit = .ok "x/0" ∧
      (parseExec (untoldText "unit-x/0")).map CommandOutcome.unit = .ok "x/0" :=
  ⟨by decide, rfl, rfl, parse_of_writes (by decide +kernel), by decide +kernel, by decide +kernel⟩

end Report

end DashboardCheck
