import DashboardCheck.Proofs.Juju.Answers
import DashboardCheck.Proofs.Text.Trimmed

/-!
# Reports of both generations

The older generation of the tool lists the units that ran a command, names the unit in its entry and
puts the code and the output beside it; the code may be a text. The newer one keys the entries by
unit and puts code and output under `results`, with other names. What is read is a unit, a code and
two texts, and it depends on nothing else: not on the generation, not on the way the code is
written, not on further keys. A code that 32 bits do not hold is never read as another one.
-/
namespace DashboardCheck

namespace Number

def IsDigits (cs : List Char) (n : Nat) : Prop :=
  cs ≠ [] ∧ (∀ c ∈ cs, isDigit c = true) ∧ Nat.ofDigitChars 10 cs 0 = n

/-- Digits that write a number, with or without a sign. -/
inductive IsDecimal : List Char → Int → Prop where
  | plain {cs : List Char} {n : Nat} : IsDigits cs n → IsDecimal cs n
  | plus {cs : List Char} {n : Nat} : IsDigits cs n → IsDecimal ('+' :: cs) n
  | minus {cs : List Char} {n : Nat} : IsDigits cs n → IsDecimal ('-' :: cs) (-n)

theorem isDigits_digitsOf (n : Nat) : IsDigits (digitsOf n) n :=
  ⟨digitsOf_ne_nil n, List.all_eq_true.mp (all_isDigit_digitsOf n),
    Nat.ofDigitChars_toDigits (by omega) (by omega)⟩

/-- The usual way to write a number is one of them. -/
theorem isDecimal_writeInteger (n : Int) : IsDecimal (Json.writeInteger n) n := by
  cases n with
  | ofNat n => exact .plain (isDigits_digitsOf n)
  | negSucc n => exact .minus (isDigits_digitsOf (n + 1))

theorem digits?_of_isDigits {cs : List Char} {n : Nat} (h : IsDigits cs n) :
    digits? cs = some n := by
  obtain ⟨hne, hdigits, hvalue⟩ := h
  have hall : cs.all isDigit = true := List.all_eq_true.mpr hdigits
  simp [digits?, hne, hall, foldDigits_eq, hvalue]

theorem head_ne_of_isDigits {cs : List Char} {n : Nat} (h : IsDigits cs n) {c : Char}
    (hc : isDigit c = false) : ∀ rest, cs ≠ c :: rest := by
  rintro rest rfl
  have hdigit := h.2.1 c (by simp)
  rw [hc] at hdigit
  cases hdigit

/-- A number is read exactly if it lies between the bounds. -/
theorem integer?_of_isDecimal {low high : Int} {cs : List Char} {n : Int} (h : IsDecimal cs n) :
    integer? low high cs = if low ≤ n ∧ n ≤ high then some n else none := by
  have hsigned : ∃ number : Option Int, number = some n ∧
      integer? low high cs = number.filter fun n => low ≤ n && n ≤ high := by
    cases h with
    | plain hdigits =>
      refine ⟨(digits? cs).map Int.ofNat, by simp [digits?_of_isDigits hdigits], ?_⟩
      rw [integer?]
      · exact head_ne_of_isDigits hdigits (by decide)
      · exact head_ne_of_isDigits hdigits (by decide)
    | @plus rest k hdigits =>
      exact ⟨(digits? rest).map Int.ofNat, by simp [digits?_of_isDigits hdigits], rfl⟩
    | @minus rest k hdigits =>
      exact ⟨(digits? rest).map fun n => -Int.ofNat n, by simp [digits?_of_isDigits hdigits], rfl⟩
  obtain ⟨number, rfl, hread⟩ := hsigned
  by_cases hrange : low ≤ n ∧ n ≤ high
  · simp [hread, hrange]
  · rw [hread, if_neg hrange]
    simpa using hrange

theorem isBlank_of_isDigit {c : Char} (h : isDigit c = true) : Text.isBlank c = false := by
  have hrange : 48 ≤ c.toNat ∧ c.toNat ≤ 57 := by
    simpa [isDigit, Char.le_def, UInt32.le_iff_toNat_le] using h
  simp only [Text.isBlank]
  grind

/-- No digit and no sign is a blank. -/
theorem IsDecimal.not_blank {cs : List Char} {n : Int} (h : IsDecimal cs n) :
    ∀ c ∈ cs, Text.isBlank c = false := by
  cases h with
  | plain hdigits => exact fun c hc => isBlank_of_isDigit (hdigits.2.1 c hc)
  | plus hdigits =>
    rintro c (_ | ⟨_, hc⟩)
    · decide
    · exact isBlank_of_isDigit (hdigits.2.1 c hc)
  | minus hdigits =>
    rintro c (_ | ⟨_, hc⟩)
    · decide
    · exact isBlank_of_isDigit (hdigits.2.1 c hc)

end Number

namespace Report

open Json

/-- A value writes a number: it is the number, or a text with its decimal digits between blanks. -/
inductive WritesNumber : Value → Int → Prop where
  | number (n : Int) : WritesNumber (.integer n) n
  | text {a cs b : List Char} {n : Int} : (∀ c ∈ a, Text.isBlank c = true) →
      Number.IsDecimal cs n → (∀ c ∈ b, Text.isBlank c = true) →
      WritesNumber (.string (String.ofList (a ++ cs ++ b))) n

/-- A number that 32 bits hold. -/
def IsCode (n : Int) : Prop :=
  CommandOutcome.minCode ≤ n ∧ n ≤ CommandOutcome.maxCode

instance (n : Int) : Decidable (IsCode n) :=
  inferInstanceAs (Decidable (_ ∧ _))

def Says (value : Value) (name : String) (text : Option String) : Prop :=
  value.get? name = text.map Value.string

/-- What a value tells of a command: the unit, the value that writes its code, and either output
unless it is left out. -/
inductive Tells (unit : String) (code : Value) (out err : Option String) : Value → Prop where
  /-- The newer generation: the unit is the key of the entry and the rest is under `results`. An
  output that is left out may not be there under its older name. -/
  | newer {entry results : Value} {more : List (String × Value)} :
      ¬ "unit-".toList <+: unit.toList →
      entry.get? "UnitId" = none → entry.get? "unit" = none →
      entry.get? "results" = some results → results.get? "return-code" = some code →
      Says results "stdout" out → (out = none → results.get? "Stdout" = none) →
      Says results "stderr" err → (err = none → results.get? "Stderr" = none) →
      Tells unit code out err (.object ((unit, entry) :: more))
  /-- The older generation: all is in the entry, under names of its own. -/
  | older {entry : Value} {more : List Value} :
      entry.get? "UnitId" = some (.string unit) → entry.get? "results" = none →
      entry.get? "return-code" = none → entry.get? "Code" = some code →
      entry.get? "stdout" = none → Says entry "Stdout" out →
      entry.get? "stderr" = none → Says entry "Stderr" err →
      Tells unit code out err (.array (entry :: more))

theorem exitCode?_of_writesNumber {code : Value} {n : Int} (h : WritesNumber code n) :
    exitCode? code = if IsCode n then some n else none := by
  cases h with
  | number n =>
    simp only [exitCode?, Bool.and_eq_true, decide_eq_true_eq]
    rfl
  | text ha hdecimal hb =>
    have htrim := Text.trimChars_between ha hb hdecimal.not_blank
    simp only [exitCode?, Text.trim, String.toList_ofList, htrim]
    exact Number.integer?_of_isDecimal hdecimal

theorem unitOfTag_of_not_tag {unit : String} (h : ¬ "unit-".toList <+: unit.toList) :
    unitOfTag unit = unit := by
  have hnone : Text.stripStart "unit-".toList unit.toList = none :=
    Text.stripStart_eq_none_iff.mpr h
  rw [unitOfTag, hnone]

/-- The first name under which there is text decides. -/
theorem outputText_of_says {results : Value} {name other : String} {text : Option String}
    (htext : Says results name text) (hother : text = none → results.get? other = none) :
    outputText results [name, other] = text.getD "" := by
  cases text with
  | some s => simp [outputText, firstOf, htext.trans rfl, Value.text?]
  | none => simp [outputText, firstOf, htext.trans rfl, hother rfl]

/-- Where the first name says nothing, the second one does. -/
theorem outputText_of_second {results : Value} {name other : String} {text : Option String}
    (hfirst : results.get? name = none) (htext : Says results other text) :
    outputText results [name, other] = text.getD "" := by
  have hskip : outputText results [name, other] = outputText results [other] := by
    simp [outputText, firstOf, hfirst]
  rw [hskip]
  cases text <;> simp [outputText, firstOf, htext.trans rfl, Value.text?]

/-- Whatever the generation, the same things are looked at. -/
theorem parseExec_of_tells {text unit : String} {value code : Value} {out err : Option String}
    (hparse : Json.parse text = .ok value) (h : Tells unit code out err value) :
    parseExec text = match exitCode? code with
      | none => .error (.output "juju exec" s!"command result for '{unit}' has no return code")
      | some n => .ok ⟨unit, n, out.getD "", err.getD ""⟩ := by
  obtain ⟨key, entry, hfirst, hunit, hcode, hout, herr⟩ : ∃ key entry,
      firstMember? value = some (key, entry) ∧ unitOf key entry = unit ∧
      firstOf ((entry.get? "results").getD entry) ["return-code", "Code", "code"] = some code ∧
      outputText ((entry.get? "results").getD entry) ["stdout", "Stdout"] = out.getD "" ∧
      outputText ((entry.get? "results").getD entry) ["stderr", "Stderr"] = err.getD "" := by
    cases h with
    | @newer entry results more hplain hid hname hresults hcode hout hOut herr hErr =>
      refine ⟨unit, entry, rfl, ?_, ?_⟩
      · simp [unitOf, firstOf, hid, hname, unitOfTag_of_not_tag hplain]
      · rw [hresults, Option.getD_some]
        exact ⟨by simp [firstOf, hcode], outputText_of_says hout hOut,
          outputText_of_says herr hErr⟩
    | @older entry more hid hresults hnew hcode hnewOut hout hnewErr herr =>
      refine ⟨"", entry, rfl, ?_, ?_⟩
      · simp [unitOf, firstOf, hid, Value.text?]
      · rw [hresults, Option.getD_none]
        exact ⟨by simp [firstOf, hnew, hcode], outputText_of_second hnewOut hout,
          outputText_of_second hnewErr herr⟩
  simp only [parseExec, parseOutput_ok hparse, bind, Except.bind, hfirst, hunit, hcode,
    Option.bind_some, hout, herr]
  cases exitCode? code <;> rfl

/-- Both generations are read alike. If the code is a number of 32 bits, in whichever way it is
written, then the outcome is the unit, this number and the two texts, where one that is left out
counts as empty. Otherwise there is no outcome: neither for another number nor for a number that
only a binary fraction holds. -/
theorem parseExec_alike {text unit : String} {value code : Value} {out err : Option String}
    (hparse : Json.parse text = .ok value) (h : Tells unit code out err value) :
    (∀ n, WritesNumber code n → IsCode n →
      parseExec text = .ok ⟨unit, n, out.getD "", err.getD ""⟩) ∧
    (∀ n, WritesNumber code n → ¬ IsCode n → parseExec text =
      .error (.output "juju exec" s!"command result for '{unit}' has no return code")) ∧
    (∀ x, code = .float x → parseExec text =
      .error (.output "juju exec" s!"command result for '{unit}' has no return code")) := by
  have hread := parseExec_of_tells hparse h
  refine ⟨?_, ?_, ?_⟩
  · intro n hwrites hcode
    rw [hread, exitCode?_of_writesNumber hwrites, if_pos hcode]
  · intro n hwrites hcode
    rw [hread, exitCode?_of_writesNumber hwrites, if_neg hcode]
  · rintro x rfl
    exact hread

/-- An entry of the newer generation as it is read: one unit, its code and its output. -/
def newerValue (code : Int) : Value :=
  .object [("a/0", .object
    [("results", .object [("return-code", .integer code), ("stdout", .string "x")])])]

def olderValue (code : String) : Value :=
  .array [.object
    [("Code", .string code), ("Stdout", .string "x"), ("UnitId", .string "a/0")]]

def readNewer? (text : String) : Option (List String × Int) :=
  match Json.parse text with
  | .ok (.object [(unit, .object [(results, .object
      [(code, .integer n), (stdout, .string out)])])]) =>
    some ([unit, results, code, stdout, out], n)
  | _ => none

def readOlder? (text : String) : Option (List String) :=
  match Json.parse text with
  | .ok (.array [.object [(code, .string n), (stdout, .string out), (id, .string unit)]]) =>
    some [code, n, stdout, out, id, unit]
  | _ => none

/-- The text of a report of the newer generation, read back. -/
theorem parse_newer {text : String} {code : Int} (h : readNewer? text =
    some (["a/0", "results", "return-code", "stdout", "x"], code)) :
    Json.parse text = .ok (newerValue code) := by
  rw [readNewer?] at h
  split at h
  · next hparse =>
    cases h
    exact hparse
  · cases h

theorem parse_older {text code : String} (h : readOlder? text =
    some ["Code", code, "Stdout", "x", "UnitId", "a/0"]) :
    Json.parse text = .ok (olderValue code) := by
  rw [readOlder?] at h
  split at h
  · next hparse =>
    cases h
    exact hparse
  · cases h

theorem tells_newerValue (code : Int) :
    Tells "a/0" (.integer code) (some "x") none (newerValue code) := by
  refine .newer (by decide) rfl rfl rfl rfl rfl ?_ rfl ?_
  · simp
  · exact fun _ => rfl

theorem tells_olderValue (code : String) :
    Tells "a/0" (.string code) (some "x") none (olderValue code) :=
  .older rfl rfl rfl rfl rfl rfl rfl rfl

/-- The smallest code is read alike from both generations, and the number below it from neither. -/
theorem parseExec_alike_smallest :
    let outcome : CommandOutcome := ⟨"a/0", -2147483648, "x", ""⟩
    let noCode : OrchestratorError :=
      .output "juju exec" "command result for 'a/0' has no return code"
    let newer (code : String) : String :=
      "\x7b\"a/0\": \x7b\"results\": \x7b\"return-code\": " ++ code ++
        ", \"stdout\": \"x\"\x7d\x7d\x7d"
    let older (code : String) : String :=
      "[\x7b\"UnitId\": \"a/0\", \"Code\": \" " ++ code ++ "\\n\", \"Stdout\": \"x\"\x7d]"
    parseExec (newer "-2147483648") = .ok outcome ∧ parseExec (older "-2147483648") = .ok outcome ∧
      parseExec (newer "-2147483649") = .error noCode ∧
      parseExec (older "-2147483649") = .error noCode := by
  intro outcome noCode newer older
  have hwritten (n : Int) : WritesNumber
      (.string (String.ofList ([' '] ++ Json.writeInteger n ++ ['\n']))) n :=
    .text (List.all_eq_true.mp (by decide)) (Number.isDecimal_writeInteger n)
      (List.all_eq_true.mp (by decide))
  refine ⟨?_, ?_, ?_, ?_⟩
  · exact (parseExec_alike (parse_newer (by decide +kernel)) (tells_newerValue _)).1 _ (.number _)
      (by decide)
  · exact (parseExec_alike (parse_older (by decide +kernel)) (tells_olderValue _)).1 _
      (hwritten (-2147483648)) (by decide)
  · exact (parseExec_alike (parse_newer (by decide +kernel)) (tells_newerValue (-2147483649))).2.1 _
      (.number _) (by decide)
  · exact (parseExec_alike (parse_older (by decide +kernel)) (tells_olderValue _)).2.1 _
      (hwritten (-2147483649)) (by decide)

end Report

end DashboardCheck
