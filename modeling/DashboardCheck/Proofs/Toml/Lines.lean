import DashboardCheck.Proofs.Dict
import DashboardCheck.Proofs.Toml.Numbers
import DashboardCheck.Proofs.Toml.Strings

/-!
# Lines are read back

A line with an entry adds this entry to the table that is being filled, and a line with a header
starts a table; no line is read further than its end. So a row of lines is read one by one, whatever
follows it.
-/
namespace DashboardCheck.Toml

open Document Number

variable {cs rest : List Char}

/-- The text of a value as it stands on a line: no blank in front, and read up to its end. -/
structure Writes (text : List Char) (value : Scalar) : Prop where
  head : ∃ c more, text = c :: more ∧ isSpace c = false
  read : ∀ (fuel depth : Nat) (rest : List Char),
    value? (fuel + 1) depth (text ++ '\n' :: rest) =
      some (.scalar (text ++ '\n' :: rest).length value, '\n' :: rest)

theorem writeString_head (s : String) :
    ∃ quote more, writeString s = quote :: more ∧ (quote = '"' ∨ quote = '\'') := by
  cases hform : StringForm.of s.toList with
  | basic => exact ⟨'"', _, by simp only [writeString, hform]; rfl, .inl rfl⟩
  | literal => exact ⟨'\'', _, by simp only [writeString, hform]; rfl, .inr rfl⟩
  | longBasic => exact ⟨'"', _, by simp only [writeString, hform]; rfl, .inl rfl⟩
  | longLiteral => exact ⟨'\'', _, by simp only [writeString, hform]; rfl, .inr rfl⟩

theorem writes_string (s : String) : Writes (writeString s) (.string s) := by
  obtain ⟨quote, more, htext, hquote⟩ := writeString_head s
  refine ⟨⟨quote, more, htext, ?_⟩, fun fuel depth rest => ?_⟩
  · rcases hquote with rfl | rfl <;> decide
  · have hread : string? (writeString s ++ '\n' :: rest) = some (s, '\n' :: rest) :=
      string?_writeString s (by simp) (by simp)
    rw [htext, List.cons_append] at hread ⊢
    rcases hquote with rfl | rfl <;> simp [value?, hread]

/-- A word goes up to the end of its line. -/
theorem word_line (h : ∀ c ∈ cs, isWord c = true) :
    word (cs ++ '\n' :: rest) = (cs, '\n' :: rest) := by
  have htake : (cs ++ '\n' :: rest).takeWhile isWord = cs := by
    rw [List.takeWhile_append_of_pos h]
    simp [isWord]
  have hdrop : (cs ++ '\n' :: rest).dropWhile isWord = '\n' :: rest := by
    rw [List.dropWhile_append_of_pos h]
    simp [isWord]
  rw [word, htake, hdrop]
  simp

theorem writes_integer {n : Nat} (h : n ≤ max64) : Writes (digitsOf n) (.integer n) := by
  have hword : ∀ c ∈ digitsOf n, isWord c = true :=
    fun c hc => isWord_of_isDigit (isDigit_of_mem_digitsOf hc)
  obtain ⟨c, more, htext⟩ := List.exists_cons_of_ne_nil (digitsOf_ne_nil n)
  have hc : isDigit c = true := isDigit_of_mem_digitsOf (n := n) (by simp [htext])
  have hnot : ∀ d, isDigit d = false → c ≠ d := fun d => ne_of_isDigit hc
  refine ⟨⟨c, more, htext, ?_⟩, fun fuel depth rest => ?_⟩
  · simp [isSpace, hnot ' ' (by decide), hnot '\t' (by decide)]
  · have hline : word (digitsOf n ++ '\n' :: rest) = (digitsOf n, '\n' :: rest) :=
      word_line hword
    have hread := ofWord?_digitsOf h
    rw [htext] at hline hread ⊢
    rw [List.cons_append] at hline ⊢
    rw [value?]
    · simp [hnot '"' (by decide), hnot '\'' (by decide), hline, hread]
    · exact hnot '[' (by decide)
    · exact hnot '\x7b' (by decide)

def IsBareName (name : String) : Prop := name.toList ≠ [] ∧ name.toList.all isBare = true

instance : DecidablePred IsBareName := fun _ => inferInstanceAs (Decidable (_ ∧ _))

theorem IsBareName.exists_cons {name : String} (h : IsBareName name) :
    ∃ c more, name.toList = c :: more ∧ isBare c = true := by
  obtain ⟨c, more, hname⟩ := List.exists_cons_of_ne_nil h.1
  exact ⟨c, more, hname, List.all_eq_true.mp h.2 c (by simp [hname])⟩

theorem ne_of_isBare {c d : Char} (hc : isBare c = true) (hd : isBare d = false) : c ≠ d := by
  rintro rfl
  simp [hc] at hd

/-- A name without quotes is read as the one key, up to what cannot be part of it. -/
theorem keys?_bare {name : String} (h : IsBareName name) {d : Char} (hd : isBare d = false)
    (hdot : (skipSpace (d :: rest)).head? ≠ some '.') {fuel : Nat} (hfuel : 0 < fuel) :
    ∃ mark, keys? fuel (name.toList ++ d :: rest) =
      some ([(name, mark)], skipSpace (d :: rest)) := by
  obtain ⟨fuel, rfl⟩ : ∃ n, fuel = n + 1 := ⟨fuel - 1, by omega⟩
  obtain ⟨c, more, hname, hc⟩ := h.exists_cons
  have hbare : ∀ c ∈ name.toList, isBare c = true := fun c => List.all_eq_true.mp h.2 c
  have htake : (name.toList ++ d :: rest).takeWhile isBare = name.toList := by
    rw [List.takeWhile_append_of_pos hbare]
    simp [hd]
  have hdrop : (name.toList ++ d :: rest).dropWhile isBare = d :: rest := by
    rw [List.dropWhile_append_of_pos hbare]
    simp [hd]
  have hkey : key? (name.toList ++ d :: rest) =
      some ((name, (name.toList ++ d :: rest).length), d :: rest) := by
    rw [key?]
    · rw [htake, hdrop, if_neg (by simp [hname]), String.ofList_toList]
    · intro behind hquote
      rw [hname] at hquote
      exact ne_of_isBare hc (by decide) (List.cons.inj hquote).1
    · intro behind hquote
      rw [hname] at hquote
      exact ne_of_isBare hc (by decide) (List.cons.inj hquote).1
  refine ⟨(name.toList ++ d :: rest).length, ?_⟩
  rw [keys?, hkey]
  simp only [Option.bind_eq_bind, Option.bind_some]
  split
  · next heq => simp [heq] at hdot
  · rfl

/-- A character at which a line begins for a reader: no blank, comment or end of a line. -/
def isVisible (c : Char) : Bool :=
  !isSpace c && c != '#' && c != '\n' && c != '\r'

theorem skipSpace_visible {c : Char} (h : isSpace c = false) :
    skipSpace (c :: rest) = c :: rest := by
  simp [skipSpace, h]

theorem skipComment?_visible {c : Char} (h : c ≠ '#') :
    skipComment? (c :: rest) = some (c :: rest) := by
  rw [skipComment?]
  exact fun more hc => h (List.cons.inj hc).1

theorem newline?_visible {c : Char} (hline : c ≠ '\n') (hreturn : c ≠ '\r') :
    newline? (c :: rest) = none := by
  rw [newline?]
  · exact fun more hc => hline (List.cons.inj hc).1
  · exact fun more hc => hreturn (List.cons.inj hc).1

theorem skipLines?_visible {c : Char} (h : isVisible c = true) (fuel : Nat) :
    skipLines? fuel (c :: rest) = some (c :: rest) := by
  simp only [isVisible, Bool.and_eq_true, Bool.not_eq_true', bne_iff_ne, ne_eq] at h
  obtain ⟨⟨⟨hspace, hcomment⟩, hline⟩, hreturn⟩ := h
  cases fuel with
  | zero => rfl
  | succ fuel =>
    rw [skipLines?, skipSpace_visible hspace, skipComment?_visible hcomment]
    simp [newline?_visible hline hreturn]

/-- An empty line is passed over. -/
theorem skipLines?_empty {c : Char} (h : isVisible c = true) :
    skipLines? ('\n' :: c :: rest).length ('\n' :: c :: rest) = some (c :: rest) := by
  rw [List.length_cons, skipLines?, skipSpace_visible (by decide),
    skipComment?_visible (by decide)]
  exact skipLines?_visible h _

theorem lineEnd?_newline : lineEnd? ('\n' :: rest) = some rest := by
  rw [lineEnd?, skipSpace_visible (by decide), skipComment?_visible (by decide)]
  rfl

theorem isVisible_of_isBare {c : Char} (h : isBare c = true) : isVisible c = true := by
  have hnot : ∀ d, isBare d = false → c ≠ d := fun d => ne_of_isBare h
  simp [isVisible, isSpace, hnot ' ' (by decide), hnot '\t' (by decide), hnot '#' (by decide),
    hnot '\n' (by decide), hnot '\r' (by decide)]

/-- A new entry is put in its place. -/
theorem Draft.add_new {draft : Draft} {name : String} (h : draft.current.holds name = false)
    (value : Item) :
    draft.add [] name value =
      some { draft with current := draft.current.insert name value } := by
  simp [Draft.add, addValue, update, h]

/-- An entry is added, and read up to the end of its line. -/
theorem entryLine?_entry {draft : Draft} {name : String} {text : List Char} {value : Scalar}
    (hname : IsBareName name) (hvalue : Writes text value)
    (hnew : draft.current.holds name = false) (rest : List Char) :
    ∃ mark, entryLine? draft (writeEntry name text ++ rest) =
      some ({ draft with current := draft.current.insert name (.scalar mark value) },
        '\n' :: rest) := by
  obtain ⟨d, more, htext, hd⟩ := hvalue.head
  have hline : writeEntry name text ++ rest =
      name.toList ++ ' ' :: '=' :: ' ' :: (text ++ '\n' :: rest) := by
    simp [writeEntry]
  have hequals : skipSpace (' ' :: '=' :: ' ' :: (text ++ '\n' :: rest)) =
      '=' :: ' ' :: (text ++ '\n' :: rest) := rfl
  have hbehind : skipSpace (' ' :: (text ++ '\n' :: rest)) = text ++ '\n' :: rest := by
    rw [htext]
    exact skipSpace_visible hd
  have hdot : (skipSpace (' ' :: '=' :: ' ' :: (text ++ '\n' :: rest))).head? ≠ some '.' := by
    simp [hequals]
  have hlength : 0 < (name.toList ++ ' ' :: '=' :: ' ' :: (text ++ '\n' :: rest)).length := by
    rw [List.length_append, List.length_cons]
    omega
  obtain ⟨mark, hkeys⟩ := keys?_bare hname (by decide) hdot hlength
  refine ⟨(text ++ '\n' :: rest).length, ?_⟩
  rw [entryLine?, hline, hkeys, hequals]
  simp [hbehind, hvalue.read, Draft.add_new hnew]

/-- A header starts a table, and is read up to the end of its line. -/
theorem header?_name {draft : Draft} {name : String} {root : Dict Item}
    (hname : IsBareName name) (hfinish : draft.finish = some root)
    (hnew : root.holds name = false) (mark : Nat) (rest : List Char) :
    header? mark draft (name.toList ++ ']' :: rest) =
      some (⟨root, some ([], name, false, mark), []⟩, rest) := by
  obtain ⟨c, more, hhead, hc⟩ := hname.exists_cons
  have hspace : skipSpace (name.toList ++ ']' :: rest) = name.toList ++ ']' :: rest := by
    rw [hhead, List.cons_append]
    refine skipSpace_visible ?_
    have hvisible := isVisible_of_isBare hc
    simp only [isVisible, Bool.and_eq_true, Bool.not_eq_true'] at hvisible
    exact hvisible.1.1.1
  have hbracket : skipSpace (']' :: rest) = ']' :: rest := rfl
  obtain ⟨keyMark, hkeys⟩ := keys?_bare hname (by decide)
    (by simp [hbracket] : (skipSpace (']' :: rest)).head? ≠ some '.')
    (Nat.succ_pos (name.toList ++ ']' :: rest).length)
  have hkept : reopen? [] name root = some [] := by
    have hnone : root.get? name = none :=
      Dict.get?_eq_none_iff.mpr fun hmem => by simp [Dict.holds_iff.mpr hmem] at hnew
    simp [reopen?, hnone]
  have hstart : draft.start [] name false mark = some ⟨root, some ([], name, false, mark), []⟩ := by
    simp [Draft.start, hfinish, hkept]
  rw [header?]
  · rw [hspace, hkeys, hbracket]
    simp [hstart]
  · intro behind hopen
    rw [hhead] at hopen
    exact ne_of_isBare hc (by decide) (List.cons.inj hopen).1

/-- Reading on at a text comes to a rest of it, with what was read added to the draft. Both times
the bound on the lines is more than there is text, so that it never stops the reader. -/
def Reads (draft : Draft) (cs : List Char) (draft' : Draft) (rest : List Char) : Prop :=
  ∀ fuel, cs.length < fuel →
    ∃ fuel', rest.length < fuel' ∧ lines? fuel draft cs = lines? fuel' draft' rest

theorem Reads.refl (draft : Draft) (cs : List Char) : Reads draft cs draft cs :=
  fun fuel hfuel => ⟨fuel, hfuel, rfl⟩

/-- Reading on after reading. -/
theorem Reads.trans {draft draft' draft'' : Draft} {cs cs' cs'' : List Char}
    (h : Reads draft cs draft' cs') (h' : Reads draft' cs' draft'' cs'') :
    Reads draft cs draft'' cs'' := by
  intro fuel hfuel
  obtain ⟨fuel', hfuel', hfirst⟩ := h fuel hfuel
  obtain ⟨fuel'', hfuel'', hsecond⟩ := h' fuel' hfuel'
  exact ⟨fuel'', hfuel'', hfirst.trans hsecond⟩

/-- A line that was read leaves the rest with less fuel to spend. -/
theorem Reads.step {draft draft' : Draft} {cs rest : List Char} (hless : rest.length < cs.length)
    (h : ∀ fuel, lines? (fuel + 1) draft cs = lines? fuel draft' rest) :
    Reads draft cs draft' rest := by
  intro fuel hfuel
  obtain ⟨fuel, rfl⟩ : ∃ n, fuel = n + 1 := ⟨fuel - 1, by omega⟩
  exact ⟨fuel, by omega, h fuel⟩

/-- Behind the last line the draft is done. -/
theorem Reads.done {draft draft' : Draft} {cs : List Char} (h : Reads draft cs draft' []) :
    lines? (cs.length + 1) draft cs = some draft' := by
  obtain ⟨fuel, hfuel, hread⟩ := h (cs.length + 1) (Nat.lt_succ_self _)
  obtain ⟨fuel, rfl⟩ : ∃ n, fuel = n + 1 := ⟨fuel - 1, by simp at hfuel; omega⟩
  rw [hread]
  rfl

/-- A text that is read to its end is a document, unless a mark of the byte order stands first. -/
theorem parse?_of_reads {text : String} {c : Char} {cs : List Char} {draft : Draft}
    {root : Dict Item} (htext : text.toList = c :: cs) (hc : c ≠ '\ufeff')
    (hreads : Reads ⟨[], none, []⟩ (c :: cs) draft []) (hfinish : draft.finish = some root) :
    parse? text = some (.table 0 .smooth (entryNodes text.length root) none) := by
  have hlines := hreads.done
  rw [parse?, htext]
  split
  · next heq => exact absurd (List.cons.inj heq).1 hc
  · simp only [hlines, hfinish, Option.bind_eq_bind, Option.bind_some, Option.pure_def]

/-- A line with an entry adds the entry. -/
theorem reads_entry {draft : Draft} {name : String} {text : List Char} {value : Scalar}
    (hname : IsBareName name) (hvalue : Writes text value)
    (hnew : draft.current.holds name = false) (rest : List Char) :
    ∃ mark, Reads draft (writeEntry name text ++ rest)
      { draft with current := draft.current.insert name (.scalar mark value) } rest := by
  obtain ⟨c, more, hhead, hc⟩ := hname.exists_cons
  obtain ⟨mark, hentry⟩ := entryLine?_entry hname hvalue hnew rest
  obtain ⟨behind, hline⟩ : ∃ behind, writeEntry name text ++ rest = c :: behind :=
    ⟨_, by rw [writeEntry, hhead]; rfl⟩
  have hskip : skipLines? (c :: behind).length (c :: behind) = some (c :: behind) :=
    skipLines?_visible (isVisible_of_isBare hc) _
  have hbracket : c ≠ '[' := ne_of_isBare hc (by decide)
  refine ⟨mark, .step ?_ fun fuel => ?_⟩
  · simp [writeEntry]
    omega
  · rw [hline] at hentry ⊢
    rw [lines?, hskip]
    simp [hbracket, hentry, lineEnd?_newline]

theorem writeHeader_append (name : String) (rest : List Char) :
    writeHeader name ++ rest = '[' :: (name.toList ++ ']' :: '\n' :: rest) := by
  simp [writeHeader]

/-- A line with a header finishes the table before it and starts a new one. -/
theorem reads_header {draft : Draft} {name : String} {root : Dict Item}
    (hname : IsBareName name) (hfinish : draft.finish = some root)
    (hnew : root.holds name = false) (rest : List Char) :
    ∃ mark, Reads draft (writeHeader name ++ rest) ⟨root, some ([], name, false, mark), []⟩
      rest := by
  have hheader := fun mark => header?_name hname hfinish hnew mark ('\n' :: rest)
  rw [writeHeader_append]
  refine ⟨('[' :: (name.toList ++ ']' :: '\n' :: rest)).length, .step ?_ fun fuel => ?_⟩
  · simp
    omega
  · rw [lines?, skipLines?_visible (by decide)]
    simp [hheader, lineEnd?_newline]

/-- An empty line before a header is passed over. -/
theorem reads_empty (draft : Draft) (name : String) (rest : List Char) :
    Reads draft ('\n' :: (writeHeader name ++ rest)) draft (writeHeader name ++ rest) := by
  rw [writeHeader_append]
  intro fuel hfuel
  obtain ⟨fuel, rfl⟩ : ∃ n, fuel = n + 1 := ⟨fuel - 1, by omega⟩
  refine ⟨fuel + 1, Nat.lt_of_succ_lt hfuel, ?_⟩
  rw [lines?, lines?, skipLines?_empty (by decide), skipLines?_visible (by decide)]

section Rows

variable {α : Type} {name : α → String} {means : α → Item → Prop} {row : List α} {dict : Dict Item}

/-- A table holds an item for each of a row, under its name, and nothing else. -/
structure HoldsRow (name : α → String) (means : α → Item → Prop) (row : List α)
    (dict : Dict Item) : Prop where
  ascending : dict.Ascending
  names : ∀ other, other ∈ dict.names ↔ other ∈ row.map name
  items : ∀ a ∈ row, ∃ item, dict.get? (name a) = some item ∧ means a item

theorem HoldsRow.nil : HoldsRow name means [] [] where
  ascending := List.Pairwise.nil
  names := by simp [Dict.names]
  items := by simp

theorem HoldsRow.not_holds (h : HoldsRow name means row dict) {a : α}
    (hnew : name a ∉ row.map name) : dict.holds (name a) = false := by
  rw [Bool.eq_false_iff, Ne, Dict.holds_iff, h.names]
  exact hnew

/-- A row that a table holds may grow at its end, by a setting with a new name. -/
theorem HoldsRow.insert (h : HoldsRow name means row dict) {a : α} {item : Item}
    (hnew : name a ∉ row.map name) (hitem : means a item) :
    HoldsRow name means (row ++ [a]) (dict.insert (name a) item) where
  ascending := Dict.ascending_insert (name a) item h.ascending
  names other := by
    rw [Dict.mem_names_insert, h.names, List.map_append, List.mem_append, or_comm]
    simp
  items b hb := by
    rcases List.mem_append.mp hb with hrow | hlast
    · have hne : name b ≠ name a := fun heq => hnew (heq ▸ List.mem_map_of_mem hrow)
      rw [Dict.get?_insert_other item dict hne]
      exact h.items b hrow
    · obtain rfl : b = a := by simpa using hlast
      exact ⟨item, Dict.get?_insert_self (name b) item dict, hitem⟩

theorem HoldsRow.of_mem (h : HoldsRow name means row dict) {other : String} {item : Item}
    (hmem : (other, item) ∈ dict) : ∃ a ∈ row, name a = other ∧ means a item := by
  have hother : other ∈ dict.names := List.mem_map_of_mem hmem
  obtain ⟨a, ha, rfl⟩ := List.mem_map.mp ((h.names other).mp hother)
  obtain ⟨found, hfound, hmeans⟩ := h.items a ha
  obtain rfl : found = item :=
    Option.some.inj (hfound.symm.trans (h.ascending.get?_of_mem hmem))
  exact ⟨a, ha, rfl, hmeans⟩

def Item.IsValue (item : Item) (value : Scalar) : Prop := ∃ mark, item = .scalar mark value

/-- In a row with no name twice the next name is new. -/
theorem next_of_once {a : α} {later : List α} (h : ((row ++ a :: later).map name).Nodup) :
    name a ∉ row.map name ∧ ((row ++ [a] ++ later).map name).Nodup := by
  refine ⟨fun hmem => ?_, ?_⟩
  · rw [List.map_append, List.nodup_append] at h
    exact h.2.2 _ hmem _ (by simp) rfl
  · rw [List.append_assoc]
    exact h

/-- A row of entries fills a table, behind what it holds already. -/
theorem reads_entries {text : α → List Char} {value : α → Scalar} (later : List α)
    (hname : ∀ a ∈ later, IsBareName (name a)) (hvalue : ∀ a ∈ later, Writes (text a) (value a))
    (honce : ((row ++ later).map name).Nodup) (draft : Draft)
    (hrow : HoldsRow name (fun a item => item.IsValue (value a)) row draft.current)
    (rest : List Char) :
    ∃ current, HoldsRow name (fun a item => item.IsValue (value a)) (row ++ later) current ∧
      Reads draft ((later.flatMap fun a => writeEntry (name a) (text a)) ++ rest)
        { draft with current } rest := by
  -- What was read before is in the table; the induction is on what is still to come.
  induction later generalizing row draft with
  | nil => exact ⟨draft.current, by simpa using hrow, .refl draft rest⟩
  | cons a later ih =>
    obtain ⟨hnew, honce'⟩ := next_of_once honce
    obtain ⟨mark, hread⟩ := reads_entry (hname a (by simp)) (hvalue a (by simp))
      (hrow.not_holds hnew) ((later.flatMap fun a => writeEntry (name a) (text a)) ++ rest)
    obtain ⟨current, hheld, hreads⟩ := ih (fun b hb => hname b (by simp [hb]))
      (fun b hb => hvalue b (by simp [hb])) honce' { draft with current := _ }
      (hrow.insert hnew ⟨mark, rfl⟩)
    refine ⟨current, by simpa using hheld, ?_⟩
    rw [List.flatMap_cons, List.append_assoc]
    exact hread.trans hreads

end Rows

end DashboardCheck.Toml
