import DashboardCheck.Proofs.Json.Bounds
import DashboardCheck.Proofs.Json.Value
import DashboardCheck.Proofs.Juju.Answers
import DashboardCheck.Proofs.Outcome.Status

/-!
# Outcomes are read back

What a report says of an action is written as JSON and read again as the same outcome, whether it is
read from the text or from the value, and whatever order the fields have. The results are any JSON,
binary numbers excepted; since they were read from a report they nest little enough to be read
again.
-/
namespace DashboardCheck.ActionOutcome

open Document Json

/-- What is inside of a value is nested less deeply. -/
theorem fits_firstMember? {value entry : Value} {key : String} {depth : Nat}
    (h : value.Fits (depth + 1)) (hfirst : Report.firstMember? value = some (key, entry)) :
    entry.Fits depth := by
  cases h with
  | @array depth items hitems =>
    cases items with
    | nil => cases hfirst
    | cons item more =>
      obtain ⟨-, rfl⟩ : "" = key ∧ item = entry := by simpa [Report.firstMember?] using hfirst
      exact hitems item (by simp)
  | @object depth members _ hmembers =>
    cases members with
    | nil => cases hfirst
    | cons member more =>
      obtain rfl : member = (key, entry) := by simpa [Report.firstMember?] using hfirst
      exact hmembers (key, entry) (by simp)
  | _ => cases hfirst

theorem fits_get? {value found : Value} {name : String} {depth : Nat} (h : value.Fits (depth + 1))
    (hget : value.get? name = some found) : found.Fits depth := by
  cases h with
  | object _ hmembers => exact hmembers (name, found) (Dict.mem_of_get? hget)
  | _ => cases hget

theorem parseAction_ok {stdout : String} {o : ActionOutcome}
    (h : Report.parseAction stdout = .ok o) :
    (∃ report, o.status = .ofReport report) ∧ o.results.Fits 127 := by
  by_cases htells : ∃ entry status, Report.TellsStatus stdout entry status
  · obtain ⟨entry, status, htells⟩ := htells
    obtain ⟨outcome, hread, hstatus, hresults⟩ := Report.parseAction_of_tellsStatus htells
    obtain rfl : outcome = o := Except.ok.inj (hread.symm.trans h)
    refine ⟨⟨status, hstatus⟩, ?_⟩
    obtain ⟨⟨key, hentry⟩, -⟩ := htells
    obtain ⟨value, hparse, hfirst⟩ := Report.firstEntry_iff.mp hentry
    have hfits : value.Fits 128 := fits_of_parse hparse
    rw [hresults]
    cases hget : entry.get? "results" with
    | none => exact .null 127
    | some results => exact (fits_get? (fits_firstMember? hfits hfirst) hget).mono (by decide)
  · obtain ⟨reason, herror⟩ := Report.parseAction_of_not_tellsStatus htells
    rw [herror] at h
    cases h

section Fields

variable {depth : Nat} {node : Node}

theorem text_of_any {s : String} (h : Shape.any depth node = .ok (.string s)) :
    Shape.text depth node = .ok s := by
  obtain ⟨mark, rfl⟩ := Shape.any_string h
  rfl

theorem optional_text_of_any {s : Option String}
    (h : Shape.any depth node = .ok (.ofText? s)) :
    Shape.optional Shape.text depth node = .ok s := by
  cases s with
  | some s =>
    obtain ⟨mark, rfl⟩ := Shape.any_string h
    rfl
  | none =>
    obtain ⟨mark, found, rfl, hread⟩ := Shape.any_scalar h (by simp [Value.ofText?])
      (by simp [Value.ofText?])
    cases found <;> simp [Shape.any, Value.ofText?] at hread
    rfl

/-- A known entry that was not met before is taken in. -/
theorem ofMembers_step {σ : Type} {record : Shape.Record σ} {key : Key} {closing : Closing}
    {rest : Members} {seen : List String} {state : σ} {name : String} {field : Shape.Field σ}
    {put : σ → σ} (hkey : key.name = .ok name)
    (hfield : record.fields.find? (fun field => field.name == name) = some field)
    (hseen : seen.contains name = false) (hread : field.read depth node = .ok put) :
    record.ofMembers depth ((key, node, closing) :: rest) seen state =
      record.ofMembers depth rest (name :: seen) (put state) := by
  simp only [Shape.Record.ofMembers, hkey, hfield, hseen, hread, Bool.false_eq_true, if_false]

/-- A table is read if all its entries are taken in and no field is missing. -/
theorem shape_table {σ : Type} {record : Shape.Record σ} {mark : Nat} {opened : Closing}
    {found : Members} {seen : List String} {state : σ}
    (h : record.ofMembers (depth + 1) found [] record.start = .ok (seen, state))
    (hall : record.fields.find? (fun field => field.inTable && !seen.contains field.name) = none) :
    record.shape (depth + 2) (.table mark opened found none) = .ok state := by
  rw [Shape.Record.shape, if_neg (by omega)]
  simp only [Nat.add_one_sub_one, h, hall, Shape.whole, bind, Except.bind, pure, Except.pure]

end Fields

section Members

variable {depth : Nat} {o : ActionOutcome} {member : Key × Node × Closing} {rest : Members}
  {seen : List String} (state : ActionOutcome)

theorem takes_unit (h : Shape.ReadsAs (Shape.any depth) member ("unit", .string o.unit))
    (hseen : seen.contains "unit" = false) :
    record.ofMembers depth (member :: rest) seen state =
      record.ofMembers depth rest ("unit" :: seen) { state with unit := o.unit } := by
  have hfield : (Shape.Field.needed "unit" Shape.text fun unit (o : ActionOutcome) =>
      { o with unit }).read depth member.2.1 = .ok fun state => { state with unit := o.unit } := by
    simp only [Shape.Field.needed, text_of_any h.2]
    rfl
  exact ofMembers_step h.1 rfl hseen hfield

/-- A status that is no known name in disguise is read back as it was written. -/
theorem takes_status (h : Shape.ReadsAs (Shape.any depth) member ("status", o.status.toJson))
    (hstatus : ¬o.status.IsMasked) (hseen : seen.contains "status" = false) :
    record.ofMembers depth (member :: rest) seen state =
      record.ofMembers depth rest ("status" :: seen) { state with status := o.status } := by
  have hread := ActionStatus.shape_of_any (h.2.trans (by rw [ActionStatus.toJson_eq]))
  rw [ActionStatus.ofText_text_iff.mpr hstatus] at hread
  have hfield : (Shape.Field.needed "status" ActionStatus.shape fun status (o : ActionOutcome) =>
      { o with status }).read depth member.2.1 =
        .ok fun state => { state with status := o.status } := by
    simp only [Shape.Field.needed, hread]
    rfl
  exact ofMembers_step h.1 rfl hseen hfield

theorem takes_results (h : Shape.ReadsAs (Shape.any depth) member ("results", o.results))
    (hseen : seen.contains "results" = false) :
    record.ofMembers depth (member :: rest) seen state =
      record.ofMembers depth rest ("results" :: seen) { state with results := o.results } := by
  have hread : Shape.any depth member.2.1 = .ok o.results := h.2
  have hfield : (Shape.Field.needed "results" Shape.any fun results (o : ActionOutcome) =>
      { o with results }).read depth member.2.1 =
        .ok fun state => { state with results := o.results } := by
    simp only [Shape.Field.needed, hread]
    rfl
  exact ofMembers_step h.1 rfl hseen hfield

theorem takes_message (h : Shape.ReadsAs (Shape.any depth) member ("message", .ofText? o.message))
    (hseen : seen.contains "message" = false) :
    record.ofMembers depth (member :: rest) seen state =
      record.ofMembers depth rest ("message" :: seen) { state with message := o.message } := by
  have hfind : record.fields.find? (fun field => field.name == "message") =
      some record.fields[3] := rfl
  have hread : record.fields[3].read depth member.2.1 =
      .ok fun state => { state with message := o.message } := by
    change (Shape.optional Shape.text depth member.2.1).map _ = _
    rw [optional_text_of_any h.2]
    rfl
  exact ofMembers_step h.1 hfind hseen hread

end Members

/-- The fields in the order of their names. -/
def sortedMembers (o : ActionOutcome) : List (String × Value) :=
  [("message", .ofText? o.message), ("results", o.results), ("status", o.status.toJson),
    ("unit", .string o.unit)]

theorem toJson_eq (o : ActionOutcome) : o.toJson = .object o.sortedMembers := by
  have hstatus : "status" < "unit" := by decide
  have hresults : "results" < "status" := by decide
  have hmessage : "message" < "results" := by decide
  simp only [toJson, members, sortedMembers, Value.ofMembers, Dict.ofList, List.foldl_cons,
    List.foldl_nil, Dict.insert, if_pos hstatus, if_pos hresults, if_pos hmessage]

/-- The fields are taken in, in either order. -/
theorem shape_of_entries {o : ActionOutcome} {depth mark : Nat} {opened : Closing} {found : Members}
    {members : List (String × Value)} (hmembers : members = o.members ∨ members = o.sortedMembers)
    (hstatus : ¬o.status.IsMasked)
    (h : List.Forall₂ (Shape.ReadsAs (Shape.any (depth + 1))) found members) :
    record.shape (depth + 2) (.table mark opened found none) = .ok o := by
  rcases hmembers with rfl | rfl
  · obtain _ | ⟨hunit, h⟩ := h
    obtain _ | ⟨hname, h⟩ := h
    obtain _ | ⟨hresults, h⟩ := h
    obtain _ | ⟨hmessage, h⟩ := h
    cases h
    have hall : record.fields.find? (fun field => field.inTable &&
        ! ["message", "results", "status", "unit"].contains field.name) = none := rfl
    refine shape_table ?_ hall
    rw [takes_unit _ hunit rfl, takes_status _ hname hstatus rfl, takes_results _ hresults rfl,
      takes_message _ hmessage rfl]
    rfl
  · obtain _ | ⟨hmessage, h⟩ := h
    obtain _ | ⟨hresults, h⟩ := h
    obtain _ | ⟨hname, h⟩ := h
    obtain _ | ⟨hunit, h⟩ := h
    cases h
    have hall : record.fields.find? (fun field => field.inTable &&
        ! ["unit", "status", "results", "message"].contains field.name) = none := rfl
    refine shape_table ?_ hall
    rw [takes_message _ hmessage rfl, takes_results _ hresults rfl,
      takes_status _ hname hstatus rfl, takes_unit _ hunit rfl]
    rfl

theorem fits_ofText? (s : Option String) (depth : Nat) : (Value.ofText? s).Fits depth := by
  cases s with
  | none => exact .null depth
  | some s => exact .string depth s

theorem floatFree_ofText? (s : Option String) : (Value.ofText? s).FloatFree := by
  cases s with
  | none => exact .null
  | some s => exact .string s

theorem fits_members {o : ActionOutcome} {depth : Nat} (h : o.results.Fits depth) :
    ∀ member ∈ o.members, member.2.Fits depth := by
  simp only [members, List.forall_mem_cons, List.not_mem_nil, false_imp_iff, implies_true,
    and_true, ActionStatus.toJson_eq]
  exact ⟨.string depth _, .string depth _, h, fits_ofText? _ depth⟩

theorem floatFree_members {o : ActionOutcome} (h : o.results.FloatFree) :
    ∀ member ∈ o.members, member.2.FloatFree := by
  simp only [members, List.forall_mem_cons, List.not_mem_nil, false_imp_iff, implies_true,
    and_true, ActionStatus.toJson_eq]
  exact ⟨.string _, .string _, h, floatFree_ofText? _⟩

theorem mem_sortedMembers {o : ActionOutcome} {member : String × Value} :
    member ∈ o.sortedMembers ↔ member ∈ o.members := by
  simp only [sortedMembers, members, List.mem_cons, List.not_mem_nil, or_false]
  grind

section RoundTrip

variable {o : ActionOutcome} (hstatus : ¬o.status.IsMasked) (hfits : o.results.Fits 127)
include hstatus hfits

/-- The JSON form is read as the outcome that it was made from. -/
theorem read_toJson : o.toJson.read record.shape = .ok o := by
  have hentries := entriesWrite_memberNodes o.sortedMembers 127
    fun member hmember => fits_members hfits member (mem_sortedMembers.mp hmember)
  have hread : record.shape depthLimit (Value.object o.sortedMembers).toNode = .ok o :=
    shape_of_entries (.inr rfl) hstatus (Shape.entries_eq_ok_iff.mp hentries)
  rw [Value.read, toJson_eq, hread]
  rfl

/-- A written outcome is read back, in the order of its fields or sorted by name. -/
theorem ofJson_compact (hfree : o.results.FloatFree) {members : List (String × Value)}
    (hmembers : members = o.members ∨ members = o.sortedMembers) :
    ofJson (Value.object members).compact = .ok o := by
  have hmem : ∀ member ∈ members, member ∈ o.members := by
    rcases hmembers with rfl | rfl
    · exact fun _ => id
    · exact fun _ => mem_sortedMembers.mp
  obtain ⟨mark, opened, found, hread, hfound⟩ := readText_object
    (fun member hmember => fits_members hfits member (hmem member hmember))
    fun member hmember => floatFree_members hfree member (hmem member hmember)
  have hentries := hfound 127 fun member hmember => fits_members hfits member (hmem member hmember)
  refine read_eq_ok_iff.mpr ⟨?_, by rw [hread]⟩
  rw [hread]
  exact shape_of_entries hmembers hstatus (Shape.entries_eq_ok_iff.mp hentries)

end RoundTrip

/-- Outcomes survive their own serialization. What was read of a report is read back from its JSON
form, and without binary numbers among the results also from the text of that and from the text with
the fields in their order. The status that a report names has one text for all forms, is read back
from each of them, and is completed only if the report says so. Every other status is read back too,
but for a known name that is kept as unknown, and no reader gives one of those. -/
theorem outcomes_read_back :
    (∀ (stdout : String) (o : ActionOutcome), Report.parseAction stdout = .ok o →
      o.toJson.read record.shape = .ok o ∧
      (o.results.FloatFree → ofJson o.toJson.compact = .ok o ∧ ofJson o.write = .ok o)) ∧
    (∀ (report : String) (status : ActionStatus), status = .ofReport report →
      status.toJson = .string status.text ∧ .ofReport status.text = status ∧
      status.toJson.read ActionStatus.shape = .ok status ∧
      Json.read ActionStatus.shape status.toJson.compact = .ok status ∧
      (status = .completed ↔ Text.lower (Text.trim report) = "completed")) ∧
    (∀ status : ActionStatus,
      (status.toJson.read ActionStatus.shape = .ok status ↔ ¬status.IsMasked) ∧
      (Json.read ActionStatus.shape status.toJson.compact = .ok status ↔ ¬status.IsMasked)) ∧
    (∀ report : String, ¬(ActionStatus.ofReport report).IsMasked) ∧
    ∀ (depth : Nat) (node : Node) (status : ActionStatus),
      ActionStatus.shape depth node = .ok status → ¬status.IsMasked := by
  refine ⟨fun stdout o h => ?_, ?_, fun status => ?_, ActionStatus.not_isMasked_ofReport,
    fun _ _ _ => ActionStatus.not_isMasked_of_shape⟩
  · obtain ⟨⟨report, hreport⟩, hfits⟩ := parseAction_ok h
    have hstatus : ¬o.status.IsMasked := hreport ▸ ActionStatus.not_isMasked_ofReport report
    refine ⟨read_toJson hstatus hfits, fun hfree => ⟨?_, ?_⟩⟩
    · rw [toJson_eq]
      exact ofJson_compact hstatus hfits hfree (.inr rfl)
    · exact ofJson_compact hstatus hfits hfree (.inl rfl)
  · intro report status hstatus
    have hsame : ActionStatus.ofText status.text = status := by
      rw [ActionStatus.ofText_text_iff, hstatus]
      exact ActionStatus.not_isMasked_ofReport report
    refine ⟨status.toJson_eq, ?_, ?_, ?_, ?_⟩
    · rw [hstatus, ActionStatus.ofReport_text]
    · rw [ActionStatus.read_toJson, hsame]
    · rw [ActionStatus.read_compact, hsame]
    · rw [hstatus, ActionStatus.ofReport_eq_completed_iff]
  · rw [ActionStatus.read_toJson, ActionStatus.read_compact, Except.ok.injEq, Except.ok.injEq]
    exact ⟨ActionStatus.ofText_text_iff, ActionStatus.ofText_text_iff⟩

/-- An outcome with a list among its results. -/
theorem outcomes_read_back_completed :
    ∃ o : ActionOutcome,
      (o = ⟨"a/0", .completed, .array [.integer 1, .null], none⟩ ∧ o.results.FloatFree ∧
        Report.parseAction
          "\x7b\"a/0\":\x7b\"status\":\" Completed\",\"results\":[1,null]\x7d\x7d" = .ok o) ∧
      ofJson o.write = .ok o := by
  have hparse : Json.parse
      "\x7b\"a/0\":\x7b\"status\":\" Completed\",\"results\":[1,null]\x7d\x7d" =
        .ok (.object [("a/0", .object [("results", .array [.integer 1, .null]),
          ("status", .string " Completed")])]) := parse_of_writes (by decide +kernel)
  have hunit : Report.unitOf "a/0" (.object [("results", .array [.integer 1, .null]),
      ("status", .string " Completed")]) = "a/0" := by decide +kernel
  have hread : Report.parseAction
      "\x7b\"a/0\":\x7b\"status\":\" Completed\",\"results\":[1,null]\x7d\x7d" =
        .ok ⟨"a/0", .completed, .array [.integer 1, .null], none⟩ := by
    simp only [Report.parseAction, Report.parseOutput_ok hparse, bind, Except.bind,
      Report.firstMember?, hunit, Value.get?, Dict.get?_cons, Value.text?]
    rfl
  have hfree : (Value.array [.integer 1, .null]).FloatFree := .array (by
    simp only [List.forall_mem_cons, List.not_mem_nil, false_imp_iff, implies_true, and_true]
    exact ⟨.integer 1, .null⟩)
  exact ⟨_, ⟨rfl, hfree, hread⟩, ((outcomes_read_back.1 _ _ hread).2 hfree).2⟩

end DashboardCheck.ActionOutcome
