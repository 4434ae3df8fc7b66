import DashboardCheck.Json.Reading
import DashboardCheck.Proofs.Document.Value
import DashboardCheck.Proofs.Json.Scanning

/-!
# What a reader can give

A number that is read as an integer is one of 64 bits, and an object that is read is in order. So
every value that is read fits below the depth that it was read at.
-/
namespace DashboardCheck.Json

open Document Number

theorem addWhole_le {cs : List Char} {m : Magnitude} (full : Bool) (h : m.significand ≤ max64) :
    (addWhole cs m full).1.significand ≤ max64 := by
  induction cs generalizing m full with
  | nil => exact h
  | cons c cs ih =>
    rw [addWhole]
    split
    · exact ih true h
    · next hnext => exact ih false (by simpa using And.right (by simpa using hnext))

theorem wholeNumber_fits {m : Magnitude} {negative : Bool} {n : Int} (hm : m.significand ≤ max64)
    (h : wholeNumber m negative = some (.integer n)) : fits64 n = true := by
  rw [fits64_iff]
  rw [max64] at hm
  have hfloat : ∀ b, (m.toFloat? b).map Scalar.float ≠ some (.integer n) := by
    intro b
    cases m.toFloat? b <;> simp
  rw [wholeNumber] at h
  split at h
  · exact absurd h (hfloat _)
  split at h
  · split at h
    · exact absurd h (hfloat _)
    · next hsmall =>
      have hpow : Nat.pow 2 63 = 9223372036854775808 := by decide
      obtain rfl : -(m.significand : Int) = n := by simpa using h
      rw [Bool.or_eq_true, decide_eq_true_eq, decide_eq_true_eq, hpow] at hsmall
      omega
  · obtain rfl : (m.significand : Int) = n := by simpa using h
    omega

/-- What a token stands for is an integer only if 64 bits hold that. -/
def Lexeme.Fits (lexeme : Lexeme) : Prop :=
  ∀ n, lexeme = .scalar (.integer n) → fits64 n = true

theorem Lexeme.Fits.broken (trouble : Break) : (Lexeme.broken trouble).Fits := by
  simp [Lexeme.Fits]

theorem Lexeme.Fits.unreadable (fault : Fault) : (Lexeme.unreadable fault).Fits := by
  simp [Lexeme.Fits]

theorem Lexeme.Fits.float (x : Float) : (Lexeme.scalar (.float x)).Fits := by
  simp [Lexeme.Fits]

/-- A number of which nothing may be known but that it is out of range. -/
theorem Lexeme.Fits.number {value : Option Scalar} (fault : Fault)
    (h : ∀ n, value = some (.integer n) → fits64 n = true) :
    (match value with
      | some value => Lexeme.scalar value
      | none => .unreadable fault).Fits := by
  cases value with
  | none => exact .unreadable fault
  | some value => simpa [Lexeme.Fits] using h

theorem scanNumber_fits (negative : Bool) (start : Nat) (cs : List Char) (pos : Nat) :
    (scanNumber negative start cs pos).1.lexeme.Fits := by
  have hsum : (addWhole (cs.takeWhile isDigit) ⟨0, 0⟩ false).1.significand ≤ max64 :=
    addWhole_le false (Nat.zero_le _)
  have hfloat : ∀ (x : Option Float) n, x.map Scalar.float = some (.integer n) →
      fits64 n = true := by
    intro x n h
    cases x <;> cases h
  unfold scanNumber
  dsimp only
  generalize ((cs.dropWhile isDigit).head? == some '.') = pointed
  generalize hfraction : (if pointed then (cs.dropWhile isDigit).tail.takeWhile isDigit else []) =
    fraction
  generalize (if pointed then (cs.dropWhile isDigit).tail.dropWhile isDigit
    else cs.dropWhile isDigit) = rest
  generalize (if pointed then pos + (cs.takeWhile isDigit).length + 1 + fraction.length
    else pos + (cs.takeWhile isDigit).length) = after
  split
  · split <;> exact .broken _
  · exact .broken _
  split
  · split <;> exact .broken _
  split
  -- The exponent follows a small or a capital letter, and makes the number a binary one.
  iterate 2
    · split
      all_goals
        split
        · split <;> exact .broken _
        split
        · exact .number _ (hfloat _)
        · split
          · exact .unreadable _
          · exact .float _
  · refine .number _ fun n h => ?_
    split at h
    · exact hfloat _ n h
    · next hwhole =>
      rw [if_neg hwhole] at hfraction
      subst hfraction
      exact wholeNumber_fits hsum h

theorem scanString_fits (cs : List Char) (pos : Nat) : (scanString cs pos).1.lexeme.Fits := by
  simp only [scanString]
  split
  · split
    · simp [Lexeme.Fits]
    · exact .unreadable _
  · exact .broken _

/-- What is scanned for a word is its value, or nothing that could be too large. -/
theorem scanWord_fits {value : Scalar} (h : (Lexeme.scalar value).Fits) (start : Nat)
    (word rest : List Char) (pos : Nat) : (scanWord start value word rest pos).1.lexeme.Fits := by
  induction word generalizing rest pos with
  | nil => exact h
  | cons w word ih =>
    cases rest with
    | nil => exact .broken _
    | cons c rest =>
      rw [scanWord]
      split
      · exact ih rest (pos + 1)
      · exact .broken _

theorem scanToken_fits (c : Char) (rest : List Char) (pos : Nat) :
    (scanToken c rest pos).1.lexeme.Fits := by
  unfold scanToken
  dsimp only
  split
  -- The six signs.
  iterate 6
    · simp [Lexeme.Fits]
  · exact scanString_fits rest pos
  iterate 3
    · exact scanWord_fits (by simp [Lexeme.Fits]) _ _ _ _
  · exact scanNumber_fits true pos rest (pos + 1)
  · split
    · exact scanNumber_fits false pos (c :: rest) pos
    · exact .broken _

/-- Tokens of which every integer is one of 64 bits. -/
def AllFit (tokens : List Token) : Prop := ∀ token ∈ tokens, token.lexeme.Fits

theorem allFit_scanFrom (fuel : Nat) (cs : List Char) (pos : Nat) :
    AllFit (scanFrom fuel cs pos) := by
  induction fuel generalizing cs pos with
  | zero => simp [AllFit, scanFrom]
  | succ fuel ih =>
    cases cs with
    | nil => simp [AllFit, scanFrom]
    | cons c rest =>
      have hfirst := scanToken_fits c rest pos
      rw [scanFrom]
      split
      · exact ih rest (pos + 1)
      split
      · next token htoken =>
        rw [htoken] at hfirst
        simpa [AllFit] using hfirst
      · next token rest htoken =>
        rw [htoken] at hfirst
        exact List.forall_mem_cons.mpr ⟨hfirst, ih rest token.stop⟩

/-- A document from which only values are read that fit. -/
def Fitting (node : Node) : Prop :=
  ∀ depth value, Shape.any depth node = .ok value → value.Fits depth

theorem fitting_broken (trouble : Break) : Fitting (.broken trouble) := by
  intro depth value h
  simp [Shape.any, Node.mismatch] at h

theorem fitting_unreadable (fault : Fault) : Fitting (.unreadable fault) := by
  intro depth value h
  simp [Shape.any, Node.mismatch] at h

theorem fitting_scalar {mark : Nat} {value : Scalar} (h : (Lexeme.scalar value).Fits) :
    Fitting (.scalar mark value) := by
  intro depth found hread
  cases value <;> simp only [Shape.any, Except.ok.injEq] at hread <;> subst hread
  · exact .null depth
  · exact .bool depth _
  · exact .integer depth (h _ rfl)
  · exact .float depth _
  · exact .string depth _

theorem fitting_list {mark : Nat} {opened : Closing} {items : List (Node × Closing)}
    {stop : Option Break} (h : ∀ item ∈ items, Fitting item.1) :
    Fitting (.list mark opened items stop) := by
  intro depth value hread
  obtain ⟨below, values, rfl, hitems, -, rfl⟩ := Shape.any_list hread
  refine .array fun value hvalue => ?_
  obtain ⟨item, hitem, hread⟩ :=
    (Shape.forall₂_mem (Shape.items_eq_ok_iff.mp hitems)).2 value hvalue
  exact h item hitem _ _ hread

theorem fitting_table {mark : Nat} {opened : Closing} {members : Members} {stop : Option Break}
    (h : ∀ member ∈ members, Fitting member.2.1) :
    Fitting (.table mark opened members stop) := by
  intro depth value hread
  obtain ⟨below, found, rfl, hfound, -, rfl⟩ := Shape.any_table hread
  refine .object (Dict.ascending_ofList found) fun entry hentry => ?_
  obtain ⟨member, hmember, -, hvalue⟩ :=
    (Shape.forall₂_mem hfound).2 entry (Dict.mem_of_mem_ofList hentry)
  exact h member hmember _ _ hvalue

/-- What is read from tokens that fit. -/
structure ReadsFitting (size fuel : Nat) : Prop where
  value : ∀ tokens, AllFit tokens →
    Fitting (readValue size fuel tokens).1 ∧ AllFit (readValue size fuel tokens).2
  items : ∀ first tokens, AllFit tokens →
    (∀ item ∈ (readItems size fuel first tokens).1, Fitting item.1) ∧
      AllFit (readItems size fuel first tokens).2.2
  item : ∀ tokens, AllFit tokens →
    (∀ item ∈ (readItem size fuel tokens).1, Fitting item.1) ∧
      AllFit (readItem size fuel tokens).2.2
  members : ∀ first tokens, AllFit tokens →
    (∀ member ∈ (readMembers size fuel first tokens).1, Fitting member.2.1) ∧
      AllFit (readMembers size fuel first tokens).2.2
  member : ∀ key tokens, AllFit tokens →
    (∀ member ∈ (readMember size fuel key tokens).1, Fitting member.2.1) ∧
      AllFit (readMember size fuel key tokens).2.2

theorem allFit_nil : AllFit [] := by simp [AllFit]

theorem AllFit.tail {token : Token} {rest : List Token} (h : AllFit (token :: rest)) :
    AllFit rest :=
  (List.forall_mem_cons.mp h).2

section Step

variable {size fuel : Nat} (ih : ReadsFitting size fuel)
include ih

theorem readValue_fits {tokens : List Token} (h : AllFit tokens) :
    Fitting (readValue size (fuel + 1) tokens).1 ∧ AllFit (readValue size (fuel + 1) tokens).2 := by
  cases tokens with
  | nil => exact ⟨fitting_broken _, allFit_nil⟩
  | cons token rest =>
    obtain ⟨htoken, hrest⟩ := List.forall_mem_cons.mp h
    rw [readValue]
    split
    · next value hvalue => exact ⟨fitting_scalar (hvalue ▸ htoken), hrest⟩
    · exact ⟨fitting_unreadable _, hrest⟩
    · exact ⟨fitting_broken _, hrest⟩
    · obtain ⟨hitems, hafter⟩ := ih.items true rest hrest
      exact ⟨fitting_list hitems, hafter⟩
    · obtain ⟨hmembers, hafter⟩ := ih.members true rest hrest
      exact ⟨fitting_table hmembers, hafter⟩
    · exact ⟨fitting_broken _, hrest⟩

/-- All items that are read from fitting tokens fit, and so do the tokens behind them. -/
theorem readItems_fits (first : Bool) {tokens : List Token} (h : AllFit tokens) :
    (∀ item ∈ (readItems size (fuel + 1) first tokens).1, Fitting item.1) ∧
      AllFit (readItems size (fuel + 1) first tokens).2.2 := by
  cases tokens with
  | nil => simp [readItems, allFit_nil]
  | cons token rest =>
    rw [readItems.eq_def]
    dsimp only
    split
    · exact ⟨by simp, h.tail⟩
    · exact ih.item _ h
    · exact ⟨by simp, allFit_nil⟩
    · split
      · exact ⟨by simp, allFit_nil⟩
      · exact ih.item _ h.tail
    · exact ⟨by simp, allFit_nil⟩

/-- An item that is read from fitting tokens fits, and so do the tokens behind it. -/
theorem readItem_fits {tokens : List Token} (h : AllFit tokens) :
    (∀ item ∈ (readItem size (fuel + 1) tokens).1, Fitting item.1) ∧
      AllFit (readItem size (fuel + 1) tokens).2.2 := by
  obtain ⟨hvalue, hafter⟩ := ih.value tokens h
  obtain ⟨hitems, hbehind⟩ := ih.items false _ hafter
  rw [readItem]
  exact ⟨List.forall_mem_cons.mpr ⟨hvalue, hitems⟩, hbehind⟩

/-- All entries that are read from fitting tokens fit, and so do the tokens behind them. -/
theorem readMembers_fits (first : Bool) {tokens : List Token} (h : AllFit tokens) :
    (∀ member ∈ (readMembers size (fuel + 1) first tokens).1, Fitting member.2.1) ∧
      AllFit (readMembers size (fuel + 1) first tokens).2.2 := by
  cases tokens with
  | nil => simp [readMembers, allFit_nil]
  | cons token rest =>
    rw [readMembers.eq_def]
    dsimp only
    split
    · exact ⟨by simp, h.tail⟩
    · split
      · exact ih.member _ _ h.tail
      · exact ⟨by simp, allFit_nil⟩
    · exact ⟨by simp, allFit_nil⟩
    · split
      · exact ih.member _ _ h.tail.tail
      · split <;> exact ⟨by simp, allFit_nil⟩
    · exact ⟨by simp, allFit_nil⟩

/-- An entry that is read from fitting tokens fits, whatever its name is, and so do the tokens
behind it. -/
theorem readMember_fits (key : Token) {tokens : List Token} (h : AllFit tokens) :
    (∀ member ∈ (readMember size (fuel + 1) key tokens).1, Fitting member.2.1) ∧
      AllFit (readMember size (fuel + 1) key tokens).2.2 := by
  have hread : ∀ found : Node × List Token, Fitting found.1 → AllFit found.2 → ∀ name closing,
      (∀ member ∈ (name, found.1, closing) :: (readMembers size fuel false found.2).1,
        Fitting member.2.1) ∧ AllFit (readMembers size fuel false found.2).2.2 := by
    intro found hvalue hafter name closing
    obtain ⟨hmembers, hbehind⟩ := ih.members false found.2 hafter
    exact ⟨List.forall_mem_cons.mpr ⟨hvalue, hmembers⟩, hbehind⟩
  rw [readMember.eq_def]
  dsimp only
  split
  · exact ⟨by simp, allFit_nil⟩
  · cases tokens with
    | nil => exact hread (.broken _, []) (fitting_broken _) allFit_nil _ _
    | cons colon rest =>
      dsimp only
      split
      · obtain ⟨hvalue, hafter⟩ := ih.value rest h.tail
        exact hread (readValue size fuel rest) hvalue hafter _ _
      · exact hread (.broken _, []) (fitting_broken _) allFit_nil _ _

end Step

theorem readsFitting (size fuel : Nat) : ReadsFitting size fuel := by
  induction fuel with
  | zero =>
    constructor
    · intro tokens _
      rw [readValue]
      exact ⟨fitting_broken _, allFit_nil⟩
    all_goals intros; simp [readItems, readItem, readMembers, readMember, allFit_nil]
  | succ fuel ih =>
    exact ⟨fun _ => readValue_fits ih, fun first _ => readItems_fits ih first,
      fun _ => readItem_fits ih, fun first _ => readMembers_fits ih first,
      fun key _ => readMember_fits ih key⟩

/-- A value that is read from a text fits below the limit of nesting. -/
theorem fits_of_parse {text : String} {value : Value} (h : parse text = .ok value) :
    value.Fits depthLimit := by
  have hread := (read_eq_ok_iff.mp h).1
  have htokens : AllFit (tokens text) := allFit_scanFrom _ _ _
  have hfitting := (readsFitting text.utf8ByteSize (3 * (tokens text).length + 3)).value _ htokens
  exact hfitting.1 depthLimit value hread

end DashboardCheck.Json
