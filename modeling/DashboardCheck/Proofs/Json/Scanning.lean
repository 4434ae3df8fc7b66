import DashboardCheck.Json.Token
import DashboardCheck.Json.Value
import DashboardCheck.Proofs.Dict
import DashboardCheck.Proofs.Number.Digits

/-!
# Scanning what was written

The text of a value is scanned into the words that the value is made of, whatever stands behind it
that does not go on with a number. Numbers have to be whole and of 64 bits for that.
-/
namespace DashboardCheck.Json

open Document Number

/-- No binary number is anywhere in the value. -/
inductive Value.FloatFree : Value → Prop
  | null : FloatFree .null
  | bool (b : Bool) : FloatFree (.bool b)
  | integer (n : Int) : FloatFree (.integer n)
  | string (s : String) : FloatFree (.string s)
  | array {items : List Value} (h : ∀ item ∈ items, FloatFree item) : FloatFree (.array items)
  | object {members : List (String × Value)} (h : ∀ member ∈ members, FloatFree member.2) :
      FloatFree (.object members)

/-- A value that `depth` leaves room for: integers are of 64 bits, objects are in the order of their
names, and lists and objects nest less deep. -/
inductive Value.Fits : Nat → Value → Prop
  | null (depth : Nat) : Fits depth .null
  | bool (depth : Nat) (b : Bool) : Fits depth (.bool b)
  | integer (depth : Nat) {n : Int} (h : fits64 n = true) : Fits depth (.integer n)
  | float (depth : Nat) (x : Float) : Fits depth (.float x)
  | string (depth : Nat) (s : String) : Fits depth (.string s)
  | array {depth : Nat} {items : List Value} (h : ∀ item ∈ items, Fits (depth + 1) item) :
      Fits (depth + 2) (.array items)
  | object {depth : Nat} {members : List (String × Value)} (hnames : Dict.Ascending members)
      (h : ∀ member ∈ members, Fits (depth + 1) member.2) : Fits (depth + 2) (.object members)

theorem Value.Fits.mono {depth more : Nat} {value : Value} (h : value.Fits depth)
    (hmore : depth ≤ more) : value.Fits more := by
  induction h generalizing more with
  | null | bool | float | string => constructor
  | integer _ hfits => exact .integer more hfits
  | array h ih =>
    obtain ⟨below, rfl⟩ : ∃ below, more = below + 2 := ⟨more - 2, by omega⟩
    exact .array fun item hitem => ih item hitem (by omega)
  | object hnames h ih =>
    obtain ⟨below, rfl⟩ : ∃ below, more = below + 2 := ⟨more - 2, by omega⟩
    exact .object hnames fun member hmember => ih member hmember (by omega)

/-- What a token says, whatever its place: whether it begins with a quotation mark, and what it
stands for. -/
abbrev Word := Bool × Lexeme

def Token.word (token : Token) : Word := (token.isText, token.lexeme)

def signWord (s : Sign) : Word := (false, .sign s)

def stringWord (s : String) : Word := (true, .scalar (.string s))

def scalarWord (s : Scalar) : Word :=
  match s with
  | .string s => stringWord s
  | s => (false, .scalar s)

mutual

def Value.words : Value → List Word
  | .null => [scalarWord .null]
  | .bool b => [scalarWord (.bool b)]
  | .integer n => [scalarWord (.integer n)]
  | .float x => [scalarWord (.float x)]
  | .string s => [scalarWord (.string s)]
  | .array items => signWord .openList :: itemWords items ++ [signWord .closeList]
  | .object members => signWord .openTable :: memberWords members ++ [signWord .closeTable]

def itemWords : List Value → List Word
  | [] => []
  | [item] => item.words
  | item :: rest => item.words ++ signWord .comma :: itemWords rest

def memberWords : List (String × Value) → List Word
  | [] => []
  | [(name, value)] => stringWord name :: signWord .colon :: value.words
  | (name, value) :: rest =>
    stringWord name :: signWord .colon :: value.words ++ signWord .comma :: memberWords rest

end

/-- Scanning `cs` gives tokens that say these words, and goes on with `rest`. -/
def Scans (cs : List Char) (words : List Word) (rest : List Char) : Prop :=
  ∀ fuel pos, cs.length ≤ fuel → ∃ tokens fuel' pos',
    tokens.map Token.word = words ∧ rest.length ≤ fuel' ∧
      scanFrom fuel cs pos = tokens ++ scanFrom fuel' rest pos'

theorem Scans.nil (cs : List Char) : Scans cs [] cs :=
  fun fuel pos hfuel => ⟨[], fuel, pos, rfl, hfuel, rfl⟩

theorem Scans.append {cs ds rest : List Char} {words words' : List Word} (h : Scans cs words ds)
    (h' : Scans ds words' rest) : Scans cs (words ++ words') rest := by
  intro fuel pos hfuel
  obtain ⟨tokens, fuel₁, pos₁, htokens, hfuel₁, hscan⟩ := h fuel pos hfuel
  obtain ⟨tokens', fuel₂, pos₂, htokens', hfuel₂, hscan'⟩ := h' fuel₁ pos₁ hfuel₁
  refine ⟨tokens ++ tokens', fuel₂, pos₂, ?_, hfuel₂, ?_⟩
  · rw [List.map_append, htokens, htokens']
  · rw [hscan, hscan', List.append_assoc]

/-- One token is scanned where blanks do not stand before it. -/
theorem Scans.token {c : Char} {cs rest : List Char} {word : Word} (hspace : isSpace c = false)
    (hlength : rest.length ≤ cs.length)
    (h : ∀ pos, ∃ token, scanToken c cs pos = (token, some rest) ∧ token.word = word) :
    Scans (c :: cs) [word] rest := by
  intro fuel pos hfuel
  obtain ⟨token, htoken, hword⟩ := h pos
  cases fuel with
  | zero => simp at hfuel
  | succ fuel =>
    refine ⟨[token], fuel, token.stop, by rw [← hword]; rfl, ?_, ?_⟩
    · rw [List.length_cons] at hfuel
      omega
    · simp [scanFrom, hspace, htoken]

/-- The whole of a text is scanned. -/
theorem Scans.tokens {text : String} {words : List Word} (h : Scans text.toList words []) :
    (tokens text).map Token.word = words := by
  obtain ⟨found, fuel, pos, hwords, -, hscan⟩ := h text.toList.length 0 (Nat.le_refl _)
  have hnone : scanFrom fuel [] pos = [] := by cases fuel <;> rfl
  rw [Json.tokens, hscan, hnone, List.append_nil, hwords]

def Sign.mark : Sign → Char
  | openTable => '\x7b'
  | closeTable => '\x7d'
  | openList => '['
  | closeList => ']'
  | colon => ':'
  | comma => ','

theorem scans_sign (s : Sign) (rest : List Char) : Scans (s.mark :: rest) [signWord s] rest := by
  cases s <;> exact .token rfl (Nat.le_refl _) fun pos => ⟨_, rfl, rfl⟩

theorem scans_null (rest : List Char) :
    Scans (writeScalar .null ++ rest) [scalarWord .null] rest :=
  .token rfl (by simp; omega) fun pos => ⟨_, rfl, rfl⟩

theorem scans_bool (b : Bool) (rest : List Char) :
    Scans (writeScalar (.bool b) ++ rest) [scalarWord (.bool b)] rest := by
  cases b <;> exact .token rfl (by simp; omega) fun pos => ⟨_, rfl, rfl⟩

/-- In a string these characters are scanned into one piece, which stands for `c`. -/
def ScansAs (cs : List Char) (c : Char) : Prop :=
  ∀ pos, ∃ piece after,
    (∀ more, scanPieces (cs ++ more) pos =
      ((piece, after) :: (scanPieces more after).1, (scanPieces more after).2)) ∧
    ∀ pieces ending, joinPieces ((piece, after) :: pieces) ending =
      (joinPieces pieces ending).map (c :: ·)

theorem scansAs_plain {c : Char} (hquote : c ≠ '"') (hescape : c ≠ '\\')
    (hcontrol : ¬c.toNat < 0x20) : ScansAs [c] c := by
  intro pos
  refine ⟨.plain c, pos + c.utf8Size, fun more => ?_, fun pieces ending => rfl⟩
  rw [List.singleton_append, scanPieces.eq_def]
  split <;> simp_all

theorem scansAs_escape {c e : Char} (hunit : c ≠ 'u') (h : shortEscape? c = some e) :
    ScansAs ['\\', c] e := by
  intro pos
  refine ⟨.escape e, pos + 2, fun more => ?_, fun pieces ending => rfl⟩
  simp [scanPieces, hunit, h]

/-- A control character is written as a UTF-16 unit. -/
theorem scansAs_unit {c : Char} (hcontrol : c.toNat < 0x20) :
    ScansAs (['\\', 'u', '0', '0'] ++ (if c.toNat < 0x10 then ['0'] else ['1']) ++
      Text.hexDigits (c.toNat % 16)) c := by
  have hall : ∀ n < 0x20,
      hex4? '0' '0' (if n < 0x10 then '0' else '1') ((Text.hexDigits (n % 16)).headD '0') = some n ∧
        (Text.hexDigits (n % 16)).tail = [] ∧ Text.hexDigits (n % 16) ≠ [] := by decide
  obtain ⟨hvalue, hsingle, hsome⟩ := hall c.toNat hcontrol
  intro pos
  refine ⟨.unit c.toNat, pos + 6, fun more => ?_, fun pieces ending => ?_⟩
  · cases hlast : Text.hexDigits (c.toNat % 16) with
    | nil => exact absurd hlast hsome
    | cons d ds =>
      rw [hlast] at hvalue hsingle
      obtain rfl : ds = [] := hsingle
      have hfirst : (if c.toNat < 0x10 then ['0'] else ['1']) =
          [if c.toNat < 0x10 then '0' else '1'] := by
        split <;> rfl
      rw [List.headD_cons] at hvalue
      simp [hfirst, scanPieces, hvalue]
  · have hlow : ¬(0xDC00 ≤ c.toNat ∧ c.toNat ≤ 0xDFFF) := by omega
    have hhigh : ¬(0xD800 ≤ c.toNat ∧ c.toNat ≤ 0xDBFF) := by omega
    rw [joinPieces.eq_def]
    simp [hlow, hhigh]

theorem scansAs_writeChar (c : Char) : ScansAs (writeChar c) c := by
  rw [writeChar]
  -- The escapes of one letter, then control characters, then all others.
  iterate 7
    split
    · next h =>
      subst h
      exact scansAs_escape (by decide) rfl
  split
  · next hcontrol => exact scansAs_unit hcontrol
  · next hquote hescape _ _ _ _ _ hcontrol => exact scansAs_plain hquote hescape hcontrol

/-- Written characters are scanned up to the closing mark, and stand for what was written. -/
theorem scanPieces_flatMap (cs rest : List Char) (pos : Nat) :
    ∃ pieces stop, scanPieces (cs.flatMap writeChar ++ '"' :: rest) pos =
      (pieces, .closed rest stop) ∧ joinPieces pieces (.closed rest stop) = .ok cs := by
  induction cs generalizing pos with
  | nil => exact ⟨[], pos + 1, by simp [scanPieces], rfl⟩
  | cons c cs ih =>
    obtain ⟨piece, after, hscan, hjoin⟩ := scansAs_writeChar c pos
    obtain ⟨pieces, stop, hmore, hcs⟩ := ih after
    refine ⟨(piece, after) :: pieces, stop, ?_, ?_⟩
    · rw [List.flatMap_cons, List.append_assoc, hscan, hmore]
    · rw [hjoin, hcs]
      rfl

theorem scans_string (s : String) (rest : List Char) :
    Scans (writeString s ++ rest) [stringWord s] rest := by
  have htext : writeString s ++ rest = '"' :: (s.toList.flatMap writeChar ++ '"' :: rest) := by
    simp [writeString]
  rw [htext]
  refine .token rfl (by simp; omega) fun pos => ?_
  obtain ⟨pieces, stop, hscan, hjoin⟩ := scanPieces_flatMap s.toList rest (pos + 1)
  refine ⟨⟨pos, stop, true, .scalar (.string s)⟩, ?_, rfl⟩
  simp [scanToken, scanString, hscan, hjoin]

/-- Nothing that could go on with a number. -/
def Stops (rest : List Char) : Prop :=
  ∀ c ∈ rest.head?, isDigit c = false ∧ c ≠ '.' ∧ c ≠ 'e' ∧ c ≠ 'E'

theorem stops_nil : Stops [] := by simp [Stops]

theorem stops_mark (s : Sign) (rest : List Char) : Stops (s.mark :: rest) := by
  rintro c hc
  obtain rfl : s.mark = c := by simpa using hc
  cases s <;> decide

theorem le_foldDigits (n : Nat) (cs : List Char) : n ≤ foldDigits n cs := by
  induction cs generalizing n with
  | nil => exact Nat.le_refl n
  | cons c cs ih =>
    have hmore : n * 10 + digitValue c ≤ foldDigits n (c :: cs) := ih _
    omega

/-- All digits of a number of 64 bits are added up. -/
theorem addWhole_eq {cs : List Char} {n : Nat} (h : foldDigits n cs ≤ max64) :
    addWhole cs ⟨n, 0⟩ false = (⟨foldDigits n cs, 0⟩, false) := by
  induction cs generalizing n with
  | nil => rfl
  | cons c cs ih =>
    have hstep : foldDigits n (c :: cs) = foldDigits (n * 10 + digitValue c) cs := rfl
    rw [hstep] at h ⊢
    have hnext : ¬max64 < n * 10 + digitValue c :=
      Nat.not_lt.mpr (Nat.le_trans (le_foldDigits _ cs) h)
    simp only [addWhole, Bool.false_or, decide_eq_true_eq, if_neg hnext]
    exact ih h

/-- The digits of a number are scanned as that number, up to what stops them. -/
theorem scanNumber_digitsOf {n : Nat} (hn : n ≤ max64) {rest : List Char} (hstop : Stops rest)
    (negative : Bool) (start pos : Nat) {value : Scalar}
    (hvalue : wholeNumber ⟨n, 0⟩ negative = some value) :
    ∃ stop, scanNumber negative start (digitsOf n ++ rest) pos =
      (⟨start, stop, false, .scalar value⟩, some rest) := by
  have hdigits : ∀ c ∈ digitsOf n, isDigit c = true := fun _ => isDigit_of_mem_digitsOf
  have hend : ∀ c ∈ rest.head?, isDigit c = false := fun c hc => (hstop c hc).1
  have hsum : addWhole (digitsOf n) ⟨0, 0⟩ false = (⟨n, 0⟩, false) := by
    have hfold : foldDigits 0 (digitsOf n) = n := foldDigits_digitsOf n
    rw [addWhole_eq (by rwa [hfold]), hfold]
  refine ⟨pos + (digitsOf n).length, ?_⟩
  simp only [scanNumber, takeWhile_isDigit_append hdigits hend,
    dropWhile_isDigit_append hdigits hend, hsum]
  split
  · next hnone => exact absurd hnone (digitsOf_ne_nil n)
  · next hzero => exact absurd hzero (digitsOf_ne_zero_cons n _ _)
  · have hpoint : (rest.head? == some '.') = false := by
      rw [beq_eq_false_iff_ne]
      exact fun hc => (hstop '.' hc).2.1 rfl
    simp only [hpoint, Bool.false_and, Bool.false_eq_true, if_false]
    split
    · exact absurd rfl (hstop 'e' rfl).2.2.1
    · exact absurd rfl (hstop 'E' rfl).2.2.2
    · simp only [addPlaces, hvalue]

theorem isDigit_cons_digitsOf (n : Nat) :
    ∃ c more, digitsOf n = c :: more ∧ isDigit c = true := by
  cases hcs : digitsOf n with
  | nil => exact absurd hcs (digitsOf_ne_nil n)
  | cons c more => exact ⟨c, more, rfl, isDigit_of_mem_digitsOf (n := n) (by simp [hcs])⟩

theorem scanToken_digit {c : Char} (h : isDigit c = true) (rest : List Char) (pos : Nat) :
    scanToken c rest pos = scanNumber false pos (c :: rest) pos := by
  rw [scanToken.eq_def]
  split <;> first | exact absurd h (by decide) | rw [if_pos h]

theorem fits64_iff {n : Int} :
    fits64 n = true ↔ -9223372036854775808 ≤ n ∧ n < 18446744073709551616 := by
  have hlow : -Int.pow 2 63 = -9223372036854775808 := by decide
  have hhigh : Int.pow 2 64 = 18446744073709551616 := by decide
  rw [fits64, Bool.and_eq_true, decide_eq_true_eq, decide_eq_true_eq, hlow, hhigh]

/-- An integer of 64 bits is scanned as a whole. -/
theorem scans_integer {n : Int} (hn : fits64 n = true) {rest : List Char} (hstop : Stops rest) :
    Scans (writeInteger n ++ rest) [scalarWord (.integer n)] rest := by
  obtain ⟨hlow, hhigh⟩ := fits64_iff.mp hn
  cases n with
  | ofNat n =>
    have hlimit : n ≤ max64 := by
      have hvalue : (n : Int) < 18446744073709551616 := hhigh
      rw [max64]
      omega
    obtain ⟨c, more, hdigits, hc⟩ := isDigit_cons_digitsOf n
    have htext : writeInteger (.ofNat n) ++ rest = c :: (more ++ rest) := by
      rw [writeInteger, hdigits, List.cons_append]
    have hnot : ∀ d, isDigit d = false → c ≠ d := fun d => ne_of_isDigit hc
    have hspace : isSpace c = false := by
      simp [isSpace, hnot ' ' rfl, hnot '\n' rfl, hnot '\t' rfl, hnot '\r' rfl]
    rw [htext]
    refine .token hspace (by simp) fun pos => ?_
    have hvalue : wholeNumber ⟨n, 0⟩ false = some (.integer (.ofNat n)) := rfl
    obtain ⟨stop, hscan⟩ := scanNumber_digitsOf hlimit hstop false pos pos hvalue
    rw [hdigits, List.cons_append] at hscan
    exact ⟨_, (scanToken_digit hc _ pos).trans hscan, rfl⟩
  | negSucc n =>
    have hlow' : n + 1 ≤ 9223372036854775808 := by omega
    have hlimit : n + 1 ≤ max64 := by
      rw [max64]
      omega
    have hvalue : wholeNumber ⟨n + 1, 0⟩ true = some (.integer (.negSucc n)) := by
      have hpow : Nat.pow 2 63 = 9223372036854775808 := by decide
      have hbelow : ¬(n + 1 = 0 || Nat.pow 2 63 < n + 1) = true := by
        rw [hpow, Bool.or_eq_true, decide_eq_true_eq, decide_eq_true_eq]
        omega
      rw [wholeNumber, if_neg (fun h => h rfl), if_pos rfl, if_neg hbelow]
      rfl
    refine .token (by decide) (by simp) fun pos => ?_
    obtain ⟨stop, hscan⟩ := scanNumber_digitsOf hlimit hstop true pos (pos + 1) hvalue
    exact ⟨_, hscan, rfl⟩

/-- Members between braces are scanned as an object. -/
theorem Scans.object {members : List (String × Value)} {rest : List Char}
    (h : Scans (compactMembers members ++ Sign.closeTable.mark :: rest) (memberWords members)
      (Sign.closeTable.mark :: rest)) :
    Scans ((Value.object members).compactChars ++ rest) (Value.object members).words rest := by
  rw [Value.compactChars, Value.words, List.append_assoc, List.cons_append, List.cons_append]
  exact (scans_sign .openTable _).append (h.append (scans_sign .closeTable rest))

mutual

/-- The text of a value is scanned into its words. -/
theorem scans_compactChars {value : Value} {depth : Nat} (hfits : value.Fits depth)
    (hfree : value.FloatFree) {rest : List Char} (hstop : Stops rest) :
    Scans (value.compactChars ++ rest) value.words rest := by
  match value with
  | .null => exact scans_null rest
  | .bool b => exact scans_bool b rest
  | .integer n =>
    cases hfits with
    | integer _ hn => exact scans_integer hn hstop
  | .float x => cases hfree
  | .string s => exact scans_string s rest
  | .array items =>
    cases hfits with
    | array hitems =>
      cases hfree with
      | array hfree =>
        rw [Value.compactChars, Value.words, List.append_assoc, List.cons_append, List.cons_append]
        exact (scans_sign .openList _).append
          ((scans_compactItems hitems hfree (stops_mark .closeList rest)).append
            (scans_sign .closeList rest))
  | .object members =>
    cases hfits with
    | object _ hmembers =>
      cases hfree with
      | object hfree =>
        exact .object (scans_compactMembers hmembers hfree (stops_mark .closeTable rest))

/-- The written items of an array are scanned word for word. -/
theorem scans_compactItems {items : List Value} {depth : Nat}
    (hfits : ∀ item ∈ items, item.Fits depth) (hfree : ∀ item ∈ items, item.FloatFree)
    {rest : List Char} (hstop : Stops rest) :
    Scans (compactItems items ++ rest) (itemWords items) rest := by
  match items with
  | [] => exact .nil rest
  | [item] => exact scans_compactChars (hfits item (by simp)) (hfree item (by simp)) hstop
  | item :: next :: more =>
    have hnext : Scans (compactItems (next :: more) ++ rest) (itemWords (next :: more)) rest :=
      scans_compactItems (fun item hitem => hfits item (by simp [hitem]))
        (fun item hitem => hfree item (by simp [hitem])) hstop
    rw [compactItems, itemWords, List.append_assoc, List.cons_append]
    · exact (scans_compactChars (hfits item (by simp)) (hfree item (by simp))
        (stops_mark .comma _)).append ((scans_sign .comma _).append hnext)
    · simp
    · simp

/-- The written members of an object are scanned word for word. -/
theorem scans_compactMembers {members : List (String × Value)} {depth : Nat}
    (hfits : ∀ member ∈ members, member.2.Fits depth)
    (hfree : ∀ member ∈ members, member.2.FloatFree) {rest : List Char} (hstop : Stops rest) :
    Scans (compactMembers members ++ rest) (memberWords members) rest := by
  match members with
  | [] => exact .nil rest
  | [(name, value)] =>
    rw [compactMembers, memberWords, List.append_assoc, List.cons_append]
    exact (scans_string name _).append ((scans_sign .colon _).append
      (scans_compactChars (hfits (name, value) (by simp)) (hfree (name, value) (by simp)) hstop))
  | (name, value) :: next :: more =>
    have hnext : Scans (compactMembers (next :: more) ++ rest) (memberWords (next :: more)) rest :=
      scans_compactMembers (fun member hmember => hfits member (by simp [hmember]))
        (fun member hmember => hfree member (by simp [hmember])) hstop
    have hmember := scans_compactChars (hfits (name, value) (by simp))
      (hfree (name, value) (by simp)) (stops_mark .comma (compactMembers (next :: more) ++ rest))
    rw [compactMembers, memberWords, List.append_assoc, List.append_assoc, List.cons_append,
      List.cons_append]
    · exact (scans_string name _).append ((scans_sign .colon _).append
        (hmember.append ((scans_sign .comma _).append hnext)))
    · simp
    · simp

end

end DashboardCheck.Json
