import DashboardCheck.Toml.Text
import DashboardCheck.Toml.Writer

/-!
# Strings are read back

Whatever form a string is written in, it is read back as it was, up to the closing quotes and no
further. A form with escapes holds every string; a form without them is only chosen for strings that
it can hold. Between three quotes the point is that a row of quotes never ends the string early.
-/
namespace DashboardCheck.Toml

open Number

theorem hexValue?_twoHex : ∀ n < 128,
    (twoHex n).map hexValue? = [some (n / 16), some (n % 16)] := by
  decide +kernel

/-- Four digits of a code below 128 are read back. -/
theorem escape?_code {c : Char} (h : c.toNat < 128) (rest : List Char) :
    escape? (['u', '0', '0'] ++ twoHex c.toNat ++ rest) = some (c, rest) := by
  have hdigits := hexValue?_twoHex c.toNat h
  obtain ⟨high, low, hpair, hhigh, hlow⟩ : ∃ high low, twoHex c.toNat = [high, low] ∧
      hexValue? high = some (c.toNat / 16) ∧ hexValue? low = some (c.toNat % 16) := by
    match hlist : twoHex c.toNat with
    | [high, low] => exact ⟨high, low, rfl, by simpa [hlist] using hdigits⟩
    | [] => simp [hlist] at hdigits
    | [_] => simp [hlist] at hdigits
    | _ :: _ :: _ :: _ => simp [hlist] at hdigits
  have hzero : hexValue? '0' = some 0 := by decide
  have hvalue : c.toNat / 16 * 16 + c.toNat % 16 = c.toNat := by omega
  have hvalid : c.toNat.isValidChar := c.valid
  have hchar : charOf? c.toNat = some c := by
    rw [charOf?, if_pos hvalid, Char.ofNat_toNat]
  simp [hpair, escape?, hex?, hzero, hhigh, hlow, hvalue, hchar]

/-- A character stands as it is, or behind a backslash as an escape that is read back. -/
theorem escaped_cases (quoteNow long : Bool) (c : Char) :
    (escaped quoteNow long c = [c] ∧ c ≠ '\\' ∧ c ≠ '\r' ∧ (c = '"' → quoteNow = false) ∧
      (isControl c = true → c = '\n' ∧ long = true)) ∨
    ∃ code, escaped quoteNow long c = '\\' :: code ∧
      ∀ rest, escape? (code ++ rest) = some (c, rest) := by
  by_cases hb : c = '\x08'
  · subst hb
    exact .inr ⟨['b'], rfl, fun _ => rfl⟩
  by_cases ht : c = '\t'
  · subst ht
    exact .inr ⟨['t'], rfl, fun _ => rfl⟩
  by_cases hn : c = '\n'
  · subst hn
    cases long with
    | true => exact .inl ⟨rfl, by decide, by decide, by simp, fun _ => ⟨rfl, rfl⟩⟩
    | false => exact .inr ⟨['n'], rfl, fun _ => rfl⟩
  by_cases hf : c = '\x0c'
  · subst hf
    exact .inr ⟨['f'], rfl, fun _ => rfl⟩
  by_cases hr : c = '\r'
  · subst hr
    exact .inr ⟨['r'], rfl, fun _ => rfl⟩
  by_cases hq : c = '"'
  · subst hq
    cases quoteNow with
    | true => exact .inr ⟨['"'], rfl, fun _ => rfl⟩
    | false => exact .inl ⟨rfl, by decide, by decide, fun _ => rfl, by simp [isControl]⟩
  by_cases hs : c = '\\'
  · subst hs
    exact .inr ⟨['\\'], rfl, fun _ => rfl⟩
  have hsame : escaped quoteNow long c =
      if c.toNat < 0x20 || c.toNat == 0x7F then ['\\', 'u', '0', '0'] ++ twoHex c.toNat
      else [c] := by
    simp only [escaped, hb, ht, hn, hf, hr, hq, hs, if_false]
  by_cases hcode : (decide (c.toNat < 0x20) || c.toNat == 0x7F) = true
  · rw [if_pos hcode] at hsame
    have hsmall : c.toNat < 128 := by
      simp only [Bool.or_eq_true, decide_eq_true_eq, beq_iff_eq] at hcode
      omega
    exact .inr ⟨['u', '0', '0'] ++ twoHex c.toNat, hsame, escape?_code hsmall⟩
  · rw [if_neg hcode] at hsame
    have hplain : isControl c = false := by
      simp only [Bool.or_eq_true, decide_eq_true_eq, beq_iff_eq, not_or] at hcode
      simp [isControl, hcode]
    exact .inl ⟨hsame, hs, hr, fun h => absurd h hq, by simp [hplain]⟩

theorem escaped_ne_nil (quoteNow long : Bool) (c : Char) : escaped quoteNow long c ≠ [] := by
  rcases escaped_cases quoteNow long c with ⟨h, -⟩ | ⟨code, h, -⟩ <;> simp [h]

theorem length_le_escapeAll (long : Bool) (row : Nat) (cs : List Char) :
    cs.length ≤ (escapeAll long row cs).length := by
  induction cs generalizing row with
  | nil => simp
  | cons c rest ih =>
    have hone : 0 < (escaped (!long || row == 2) long c).length :=
      List.length_pos_iff.mpr (escaped_ne_nil _ long c)
    have hrest := ih (if c = '"' && !(!long || row == 2) then row + 1 else 0)
    simp only [escapeAll, List.length_append, List.length_cons]
    omega

/-- What is written begins with a quote only for a quote that needs no escape, and with the end of
a line only for one. -/
theorem head_escapeAll (long : Bool) (row : Nat) (c : Char) (cs : List Char) :
    ∃ d more, escapeAll long row (c :: cs) = d :: more ∧ d ≠ '\r' ∧ (d = '\n' → c = '\n') ∧
      (d = '"' → c = '"' ∧ (!long || row == 2) = false) := by
  rcases escaped_cases (!long || row == 2) long c with
    ⟨hsame, -, hreturn, hquote, -⟩ | ⟨code, hcode, -⟩
  · exact ⟨c, _, by rw [escapeAll, hsame]; rfl, hreturn, id, fun hc => ⟨hc, hquote hc⟩⟩
  · exact ⟨'\\', _, by rw [escapeAll, hcode]; rfl, by decide, by simp, by simp⟩

/-- Between double quotes every quote is escaped, so the first that is not ends the string. -/
theorem basic?_escapeAll (cs rest : List Char) (row : Nat) {fuel : Nat} (h : cs.length < fuel) :
    basic? fuel (escapeAll false row cs ++ '"' :: rest) = some (cs, rest) := by
  induction cs generalizing row fuel with
  | nil =>
    obtain ⟨fuel, rfl⟩ : ∃ n, fuel = n + 1 := ⟨fuel - 1, by omega⟩
    simp [escapeAll, basic?]
  | cons c cs ih =>
    obtain ⟨fuel, rfl⟩ : ∃ n, fuel = n + 1 := ⟨fuel - 1, by omega⟩
    have hrest : ∀ row, basic? fuel (escapeAll false row cs ++ '"' :: rest) = some (cs, rest) :=
      fun row => ih row (by simpa using h)
    simp only [escapeAll, Bool.not_false, Bool.true_or, Bool.not_true, Bool.and_false,
      Bool.false_eq_true, if_false, List.append_assoc]
    rcases escaped_cases true false c with
      ⟨hsame, hslash, -, hquote, hcontrol⟩ | ⟨code, hcode, hread⟩
    · have hnot : c ≠ '"' := fun hc => absurd (hquote hc) (by decide)
      have hplain : isControl c = false := by
        simpa using hcontrol
      simp [hsame, basic?, hnot, hslash, hplain, hrest]
    · simp [hcode, basic?, hread, hrest]

section Close

variable {quote : Char} {rest : List Char}

theorem closeLong_none (h : rest.head? ≠ some quote) : closeLong quote rest = ([], rest) := by
  match rest with
  | [] => rfl
  | [a] => simp_all [closeLong]
  | a :: b :: more => simp_all [closeLong]

theorem closeLong_one (h : rest.head? ≠ some quote) :
    closeLong quote (quote :: rest) = ([quote], rest) := by
  match rest with
  | [] => simp [closeLong]
  | b :: more => simp_all [closeLong]

theorem closeLong_two : closeLong quote (quote :: quote :: rest) = ([quote, quote], rest) := by
  simp [closeLong]

end Close

/-- Behind so many quotes that stand as they are, what is left of a string is such that no three of
them come together. -/
def IsOpen : Nat → List Char → Prop
  | 0, _ => True
  | 1, cs => cs ≠ [] ∧ cs ≠ ['"']
  | 2, cs => cs ≠ []
  | _, _ => False

theorem IsOpen.not_quote {cs : List Char} (h : IsOpen 2 cs) (behind more : List Char) :
    escapeAll true 2 cs ++ behind ≠ '"' :: more := by
  cases cs with
  | nil => exact absurd rfl h
  | cons c cs =>
    obtain ⟨d, tail, htext, -, -, hquote⟩ := head_escapeAll true 2 c cs
    have hd : d ≠ '"' := fun hd => absurd (hquote hd).2 (by decide)
    rw [htext]
    simp [hd]

theorem IsOpen.not_quotes {cs : List Char} (h : IsOpen 1 cs) (behind more : List Char) :
    escapeAll true 1 cs ++ behind ≠ '"' :: '"' :: more := by
  obtain ⟨hne, hone⟩ := h
  cases cs with
  | nil => exact absurd rfl hne
  | cons c cs =>
    by_cases hc : c = '"'
    · subst hc
      have hopen : IsOpen 2 cs := by
        rintro rfl
        exact hone rfl
      have hstep : escapeAll true 1 ('"' :: cs) = '"' :: escapeAll true 2 cs := rfl
      rw [hstep, List.cons_append, Ne, List.cons.injEq, not_and]
      exact fun _ => hopen.not_quote behind more
    · obtain ⟨d, tail, htext, -, -, hquote⟩ := head_escapeAll true 1 c cs
      have hd : d ≠ '"' := fun hd => hc (hquote hd).1
      rw [htext]
      simp [hd]

/-- A character that does not begin three quotes is read as it was written. -/
theorem longBasic?_escaped {quoteNow : Bool} {c : Char} {behind : List Char} (fuel : Nat)
    (h : c = '"' → quoteNow = false → ∀ more, behind ≠ '"' :: '"' :: more) :
    longBasic? (fuel + 1) (escaped quoteNow true c ++ behind) =
      (longBasic? fuel behind).map fun read => (c :: read.1, read.2) := by
  rcases escaped_cases quoteNow true c with
    ⟨hsame, hslash, hreturn, hquote, hcontrol⟩ | ⟨code, hcode, hread⟩
  · have hplain : (isControl c && c != '\n') = false := by
      cases hc : isControl c with
      | false => rfl
      | true => simp [(hcontrol hc).1]
    rw [hsame, List.singleton_append, longBasic?]
    · rw [if_neg hslash, hplain]
      rfl
    · exact fun more hc => h hc (hquote hc) more
    · exact fun more hc => absurd hc hreturn
  · rw [hcode, List.cons_append, longBasic?]
    · simp [hread]
    · simp
    · simp

/-- The quotes that stand as they are behind one more character. -/
def nextRow (row : Nat) (c : Char) : Nat :=
  if c = '"' && !(!true || row == 2) then row + 1 else 0

/-- Escaping goes character by character; quotes in a row are counted. -/
theorem escapeAll_cons (row : Nat) (c : Char) (cs : List Char) :
    escapeAll true row (c :: cs) =
      escaped (!true || row == 2) true c ++ escapeAll true (nextRow row c) cs := rfl

/-- Unless the string is about to end, it is still such behind one more character, which does not
begin three quotes. -/
theorem IsOpen.next {row : Nat} {c : Char} {cs : List Char} (h : IsOpen row (c :: cs))
    (hmore : row = 0 → c = '"' → cs ≠ [] ∧ cs ≠ ['"']) :
    IsOpen (nextRow row c) cs ∧ ∀ behind more, c = '"' → (!true || row == 2) = false →
      escapeAll true (nextRow row c) cs ++ behind ≠ '"' :: '"' :: more := by
  by_cases hc : c = '"'
  · match row with
    | 0 =>
      have hopen : IsOpen 1 cs := hmore rfl hc
      simp only [nextRow, hc]
      exact ⟨hopen, fun behind more _ _ => hopen.not_quotes behind more⟩
    | 1 =>
      have hopen : IsOpen 2 cs := by
        rintro rfl
        exact h.2 (by rw [hc])
      simp only [nextRow, hc]
      exact ⟨hopen, fun behind more _ _ => hopen.not_quote behind ('"' :: more)⟩
    | 2 =>
      simp only [nextRow, hc]
      exact ⟨trivial, fun _ _ _ hrow => absurd hrow (by decide)⟩
    | _ + 3 => exact h.elim
  · have hrow : nextRow row c = 0 := by simp [nextRow, hc]
    rw [hrow]
    exact ⟨trivial, fun _ _ hquote => absurd hquote hc⟩

/-- Between three quotes the string is read up to the three that close it, and those before them
that belong to it are kept. -/
theorem longBasic?_escapeAll {rest : List Char} (hrest : rest.head? ≠ some '"') (cs : List Char)
    (row : Nat) {fuel : Nat} (hfuel : cs.length < fuel) (hopen : IsOpen row cs) :
    longBasic? fuel (escapeAll true row cs ++ '"' :: '"' :: '"' :: rest) = some (cs, rest) := by
  induction cs generalizing row fuel with
  | nil =>
    obtain ⟨fuel, rfl⟩ : ∃ n, fuel = n + 1 := ⟨fuel - 1, by omega⟩
    simp [escapeAll, longBasic?, closeLong_none hrest]
  | cons c cs ih =>
    obtain ⟨fuel, rfl⟩ : ∃ n, fuel = n + 1 := ⟨fuel - 1, by omega⟩
    have hless : cs.length < fuel := by simpa using hfuel
    -- One or two quotes at the end stand before the three that close the string, and are the only
    -- ones that the reader meets as three in a row.
    by_cases hone : row = 0 ∧ c = '"' ∧ cs = []
    · obtain ⟨rfl, rfl, rfl⟩ := hone
      exact congrArg some (closeLong_one hrest)
    by_cases htwo : row = 0 ∧ c = '"' ∧ cs = ['"']
    · obtain ⟨rfl, rfl, rfl⟩ := htwo
      exact congrArg some closeLong_two
    have hmore : row = 0 → c = '"' → cs ≠ [] ∧ cs ≠ ['"'] := fun hrow hc =>
      ⟨fun hcs => hone ⟨hrow, hc, hcs⟩, fun hcs => htwo ⟨hrow, hc, hcs⟩⟩
    obtain ⟨hnext, hquotes⟩ := hopen.next hmore
    rw [escapeAll_cons, List.append_assoc,
      longBasic?_escaped fuel fun hc hrow more => hquotes _ more hc hrow, ih _ hless hnext]
    rfl

/-- A string without codes holds no control but tabs and ends of lines. -/
theorem isControl_of_plain {c : Char} (hcode : needsCode c = false) (hline : c ≠ '\n') :
    isControl c = false := by
  simpa [isControl, needsCode, hline] using hcode

theorem ne_return_of_plain {c : Char} (hcode : needsCode c = false) : c ≠ '\r' := by
  rintro rfl
  exact absurd hcode (by decide)

/-- Between single quotes the first one ends the string. -/
theorem literal?_append {cs : List Char} (hcodes : ∀ c ∈ cs, needsCode c = false)
    (hline : '\n' ∉ cs) (hquote : '\'' ∉ cs) (rest : List Char) :
    literal? (cs ++ '\'' :: rest) = some (cs, rest) := by
  induction cs with
  | nil => simp [literal?]
  | cons c cs ih =>
    have hc : c ≠ '\'' := fun h => hquote (by simp [h])
    have hn : c ≠ '\n' := fun h => hline (by simp [h])
    have hplain := isControl_of_plain (hcodes c (by simp)) hn
    have hrest := ih (fun d hd => hcodes d (by simp [hd])) (fun h => hline (by simp [h]))
      (fun h => hquote (by simp [h]))
    simp [literal?, hc, hplain, hrest]

/-- Between three single quotes the string is read up to the three that close it, as long as no
three come before. -/
theorem longLiteral?_append {rest : List Char} (hrest : rest.head? ≠ some '\'') {cs : List Char}
    (hcodes : ∀ c ∈ cs, needsCode c = false) (hthree : ¬ ['\'', '\'', '\''] <:+: cs) :
    longLiteral? (cs ++ '\'' :: '\'' :: '\'' :: rest) = some (cs, rest) := by
  induction cs with
  | nil => simp [longLiteral?, closeLong_none hrest]
  | cons c cs ih =>
    by_cases hone : c = '\'' ∧ cs = []
    · obtain ⟨rfl, rfl⟩ := hone
      exact congrArg some (closeLong_one hrest)
    by_cases htwo : c = '\'' ∧ cs = ['\'']
    · obtain ⟨rfl, rfl⟩ := htwo
      exact congrArg some closeLong_two
    have hbehind : ∀ more, c = '\'' →
        cs ++ '\'' :: '\'' :: '\'' :: rest ≠ '\'' :: '\'' :: more := by
      rintro more rfl hquotes
      match cs with
      | [] => exact hone ⟨rfl, rfl⟩
      | [d] => exact htwo ⟨rfl, by simpa using (List.cons.inj hquotes).1⟩
      | d :: e :: cs =>
        obtain ⟨rfl, rfl⟩ : d = '\'' ∧ e = '\'' := by
          simp only [List.cons_append, List.cons.injEq] at hquotes
          exact ⟨hquotes.1, hquotes.2.1⟩
        exact hthree ⟨[], cs, rfl⟩
    have hcode := hcodes c (by simp)
    have hplain : (isControl c && c != '\n') = false := by
      by_cases hn : c = '\n'
      · simp [hn]
      · simp [isControl_of_plain hcode hn]
    have hless : longLiteral? (cs ++ '\'' :: '\'' :: '\'' :: rest) = some (cs, rest) := by
      refine ih (fun d hd => hcodes d (by simp [hd])) fun hinfix => hthree ?_
      exact hinfix.trans (List.suffix_cons c cs).isInfix
    rw [List.cons_append, longLiteral?]
    · simp [hplain, hless]
    · exact fun more hc => hbehind more hc
    · exact fun more hc => absurd hc (ne_return_of_plain hcode)

def countRow (c : Char) (state : Nat × Nat) (d : Char) : Nat × Nat :=
  if d = c then (max state.1 (state.2 + 1), state.2 + 1) else (state.1, 0)

theorem longestRow_eq (c : Char) (cs : List Char) :
    longestRow c cs = (cs.foldl (countRow c) (0, 0)).1 := rfl

theorem le_foldl_countRow (c : Char) (cs : List Char) (state : Nat × Nat) :
    state.1 ≤ (cs.foldl (countRow c) state).1 := by
  induction cs generalizing state with
  | nil => exact Nat.le_refl _
  | cons d cs ih =>
    have hstep : state.1 ≤ (countRow c state d).1 := by
      rw [countRow]
      split
      · exact Nat.le_max_left _ _
      · exact Nat.le_refl _
    exact Nat.le_trans hstep (ih _)

/-- A row of three is counted. -/
theorem three_le_longestRow {c : Char} {cs : List Char} (h : [c, c, c] <:+: cs) :
    3 ≤ longestRow c cs := by
  obtain ⟨before, behind, rfl⟩ := h
  rw [longestRow_eq, List.foldl_append, List.foldl_append]
  generalize before.foldl (countRow c) (0, 0) = state
  have hthree : 3 ≤ ([c, c, c].foldl (countRow c) state).1 := by
    simp only [List.foldl_cons, List.foldl_nil, countRow, if_true]
    omega
  exact Nat.le_trans hthree (le_foldl_countRow c behind _)

/-- A form is chosen for strings that it can hold. -/
theorem StringForm.of_literal {cs : List Char} (h : StringForm.of cs = .literal) :
    (∀ c ∈ cs, needsCode c = false) ∧ '\n' ∉ cs ∧ '\'' ∉ cs := by
  simp only [StringForm.of] at h
  split at h
  · cases h
  · split at h
    · next hform => simpa [and_assoc] using hform
    · repeat' split at h
      all_goals cases h

@[inherit_doc StringForm.of_literal]
theorem StringForm.of_longLiteral {cs : List Char} (h : StringForm.of cs = .longLiteral) :
    (∀ c ∈ cs, needsCode c = false) ∧ ¬ ['\'', '\'', '\''] <:+: cs := by
  simp only [StringForm.of] at h
  repeat' split at h
  all_goals try cases h
  next hform =>
    obtain ⟨hcodes, hrow⟩ : (∀ c ∈ cs, needsCode c = false) ∧ longestRow '\'' cs ≤ 2 := by
      simpa using hform
    refine ⟨hcodes, fun hinfix => ?_⟩
    have hthree := three_le_longestRow hinfix
    omega

/-- The line that opens a long string is passed over, and nothing else. -/
theorem dropNewline_start {cs body : List Char} (h : '\n' ∉ cs → body.head? ≠ some '\n')
    (hreturn : body.head? ≠ some '\r') :
    dropNewline ((if cs.contains '\n' then ['\n'] else []) ++ body) = body := by
  by_cases hline : '\n' ∈ cs
  · simp [hline, dropNewline, newline?]
  · have hnone : newline? body = none := by
      match body with
      | [] => rfl
      | c :: more =>
        have hn : c ≠ '\n' := by simpa using h hline
        have hr : c ≠ '\r' := by simpa using hreturn
        rw [newline?]
        · exact fun rest hc => hn (List.cons.inj hc).1
        · exact fun rest hc => hr (List.cons.inj hc).1
    simp [hline, dropNewline, hnone]

section Forms

variable (cs : List Char) {rest : List Char}

/-- The end of a string is no further quote. -/
theorem string?_basic (hrest : rest.head? ≠ some '"') :
    string? ('"' :: (escapeAll false 0 cs ++ '"' :: rest)) = some (String.ofList cs, rest) := by
  have hone : ∀ more, escapeAll false 0 cs ++ '"' :: rest ≠ '"' :: '"' :: more := by
    intro more hquotes
    cases cs with
    | nil => simp_all [escapeAll]
    | cons c cs =>
      obtain ⟨d, tail, htext, -, -, hquote⟩ := head_escapeAll false 0 c cs
      rw [htext] at hquotes
      exact absurd (hquote (List.cons.inj hquotes).1).2 (by decide)
  have hlength := length_le_escapeAll false 0 cs
  rw [string?]
  · rw [basic?_escapeAll cs rest 0 (by simp; omega)]
    rfl
  · exact fun more hmore => hone more hmore

theorem string?_literal (hrest : rest.head? ≠ some '\'') (h : StringForm.of cs = .literal) :
    string? ('\'' :: (cs ++ '\'' :: rest)) = some (String.ofList cs, rest) := by
  obtain ⟨hcodes, hline, hquote⟩ := StringForm.of_literal h
  rw [string?]
  · rw [literal?_append hcodes hline hquote]
    rfl
  · intro more hmore
    cases cs with
    | nil => simp_all
    | cons c cs => exact hquote (by simp [(List.cons.inj hmore).1])

/-- Escaped text between three quotes is read back. -/
theorem string?_longBasic (hrest : rest.head? ≠ some '"') :
    string? ('"' :: '"' :: '"' :: ((if cs.contains '\n' then ['\n'] else []) ++
      (escapeAll true 0 cs ++ '"' :: '"' :: '"' :: rest))) = some (String.ofList cs, rest) := by
  have hlength := length_le_escapeAll true 0 cs
  have hhead : ∀ d, (escapeAll true 0 cs ++ '"' :: '"' :: '"' :: rest).head? = some d →
      d ≠ '\r' ∧ (d = '\n' → '\n' ∈ cs) := by
    intro d hd
    cases cs with
    | nil =>
      obtain rfl : '"' = d := by simpa [escapeAll] using hd
      exact ⟨by decide, by simp⟩
    | cons c cs =>
      obtain ⟨e, tail, htext, hreturn, hline, -⟩ := head_escapeAll true 0 c cs
      obtain rfl : e = d := by simpa [htext] using hd
      exact ⟨hreturn, fun he => by simp [hline he]⟩
  rw [string?, dropNewline_start (fun hnone hd => hnone ((hhead _ hd).2 rfl))
    (fun hd => (hhead _ hd).1 rfl), longBasic?_escapeAll hrest cs 0 (by simp; omega) trivial]
  rfl

/-- Plain text between three apostrophes is read back, since it holds no three in a row. -/
theorem string?_longLiteral (hrest : rest.head? ≠ some '\'')
    (h : StringForm.of cs = .longLiteral) :
    string? ('\'' :: '\'' :: '\'' :: ((if cs.contains '\n' then ['\n'] else []) ++
      (cs ++ '\'' :: '\'' :: '\'' :: rest))) = some (String.ofList cs, rest) := by
  obtain ⟨hcodes, hthree⟩ := StringForm.of_longLiteral h
  have hhead : ∀ d, (cs ++ '\'' :: '\'' :: '\'' :: rest).head? = some d →
      d ≠ '\r' ∧ (d = '\n' → '\n' ∈ cs) := by
    intro d hd
    cases cs with
    | nil =>
      obtain rfl : '\'' = d := by simpa using hd
      exact ⟨by decide, by simp⟩
    | cons c cs =>
      obtain rfl : c = d := by simpa using hd
      exact ⟨ne_return_of_plain (hcodes c (by simp)), fun hc => by simp [hc]⟩
  rw [string?, dropNewline_start (fun hnone hd => hnone ((hhead _ hd).2 rfl))
    (fun hd => (hhead _ hd).1 rfl), longLiteral?_append hrest hcodes hthree]
  rfl

end Forms

/-- A string is read back, whatever it holds and whatever follows that is not a quote. -/
theorem string?_writeString (s : String) {rest : List Char} (hdouble : rest.head? ≠ some '"')
    (hsingle : rest.head? ≠ some '\'') :
    string? (writeString s ++ rest) = some (s, rest) := by
  have hs : String.ofList s.toList = s := String.ofList_toList
  cases hform : StringForm.of s.toList with
  | basic => simpa [writeString, hform, hs] using string?_basic s.toList hdouble
  | literal => simpa [writeString, hform, hs] using string?_literal s.toList hsingle hform
  | longBasic => simpa [writeString, hform, hs] using string?_longBasic s.toList hdouble
  | longLiteral => simpa [writeString, hform, hs] using string?_longLiteral s.toList hsingle hform

end DashboardCheck.Toml
