import DashboardCheck.Json.Reading
import DashboardCheck.Proofs.Document.Value
import DashboardCheck.Proofs.Json.Scanning

/-!
# Values are read back

The words of a value are read as a document that says nothing but the value. So what is written, as
a text or as a document without a text, is read again as what it was, if the nesting is not too
deep for a reader.
-/
namespace DashboardCheck.Json

open Document

section Reading

variable {size fuel : Nat} {token next : Token} {rest : List Token}

theorem readItems_close (h : token.lexeme = .sign .closeList) (first : Bool) :
    readItems size (fuel + 1) first (token :: rest) = ([], none, rest) := by
  simp [readItems, h]

theorem readItems_first (h : token.lexeme ≠ .sign .closeList) :
    readItems size (fuel + 1) true (token :: rest) = readItem size fuel (token :: rest) := by
  rw [readItems.eq_def]
  split <;> simp_all

/-- Behind a comma there has to be one more item. -/
theorem readItems_comma (h : token.lexeme = .sign .comma) (hnext : next.lexeme ≠ .sign .closeList) :
    readItems size (fuel + 1) false (token :: next :: rest) =
      readItem size fuel (next :: rest) := by
  rw [readItems.eq_def]
  simp only [h]

theorem readMembers_close (h : token.lexeme = .sign .closeTable) (first : Bool) :
    readMembers size (fuel + 1) first (token :: rest) = ([], none, rest) := by
  simp [readMembers, h]

theorem readMembers_first {name : String} (h : token.word = stringWord name) :
    readMembers size (fuel + 1) true (token :: rest) = readMember size fuel token rest := by
  obtain ⟨htext, hname⟩ := Prod.mk.inj h
  simp [readMembers, htext, hname]

/-- Behind a comma there has to be one more name. -/
theorem readMembers_comma {name : String} (h : token.lexeme = .sign .comma)
    (hnext : next.word = stringWord name) :
    readMembers size (fuel + 1) false (token :: next :: rest) =
      readMember size fuel next rest := by
  obtain ⟨htext, hname⟩ := Prod.mk.inj hnext
  simp [readMembers, h, htext]

/-- One item is read, then the others. -/
theorem readItem_step {tokens after behind : List Token} {node : Node}
    {items : List (Node × Closing)} (h : readValue size fuel tokens = (node, after))
    (hrest : readItems size fuel false after = (items, none, behind)) :
    readItem size (fuel + 1) tokens = ((node, closeList size after) :: items, none, behind) := by
  simp [readItem, h, hrest]

/-- One entry is read, its name and its value, then the others. -/
theorem readMember_step {key colon : Token} {name : String} {tokens after behind : List Token}
    {node : Node} {members : Members} (hkey : key.word = stringWord name)
    (hcolon : colon.lexeme = .sign .colon) (h : readValue size fuel tokens = (node, after))
    (hrest : readMembers size fuel false after = (members, none, behind)) :
    readMember size (fuel + 1) key (colon :: tokens) =
      ((⟨.ok name, closeTable size (colon :: tokens)⟩, node, closeTable size after) :: members,
        none, behind) := by
  obtain ⟨-, hname⟩ := Prod.mk.inj hkey
  simp [readMember, hname, hcolon, h, hrest]

theorem readValue_scalar {value : Scalar} (h : token.lexeme = .scalar value) :
    readValue size (fuel + 1) (token :: rest) = (.scalar token.stop value, rest) := by
  simp [readValue, h]

/-- A list is read from its bracket on. -/
theorem readValue_list {items : List (Node × Closing)} {after : List Token}
    (h : token.lexeme = .sign .openList)
    (hitems : readItems size fuel true rest = (items, none, after)) :
    readValue size (fuel + 1) (token :: rest) =
      (.list token.start (closeList size rest) items none, after) := by
  simp [readValue, h, hitems]

/-- A table is read from its brace on. -/
theorem readValue_table {members : Members} {after : List Token}
    (h : token.lexeme = .sign .openTable)
    (hmembers : readMembers size fuel true rest = (members, none, after)) :
    readValue size (fuel + 1) (token :: rest) =
      (.table token.start (closeTable size rest) members none, after) := by
  simp [readValue, h, hmembers]

end Reading

section Shapes

variable {node : Node} {closing : Closing}

/-- The items of a list write these values, wherever there is room for them. -/
def ItemsWrite (found : List (Node × Closing)) (items : List Value) : Prop :=
  ∀ depth, (∀ item ∈ items, item.Fits depth) → Shape.items (Shape.any depth) found = .ok items

/-- The entries of a table write these members, wherever there is room for them. -/
def EntriesWrite (found : Members) (members : List (String × Value)) : Prop :=
  ∀ depth, (∀ member ∈ members, member.2.Fits depth) →
    Shape.entries (Shape.any depth) found = .ok members

theorem ItemsWrite.nil : ItemsWrite [] [] := fun _ _ => rfl

theorem EntriesWrite.nil : EntriesWrite [] [] := fun _ _ => rfl

theorem ItemsWrite.cons {found : List (Node × Closing)} {item : Value} {items : List Value}
    (h : ∀ depth, item.Fits depth → Shape.any depth node = .ok item)
    (hrest : ItemsWrite found items) : ItemsWrite ((node, closing) :: found) (item :: items) := by
  intro depth hfits
  obtain ⟨hitem, hitems⟩ := List.forall_mem_cons.mp hfits
  exact Shape.items_eq_ok_iff.mpr
    (.cons (h depth hitem) (Shape.items_eq_ok_iff.mp (hrest depth hitems)))

theorem EntriesWrite.cons {found : Members} {key : Key} {name : String} {value : Value}
    {members : List (String × Value)} (hkey : key.name = .ok name)
    (h : ∀ depth, value.Fits depth → Shape.any depth node = .ok value)
    (hrest : EntriesWrite found members) :
    EntriesWrite ((key, node, closing) :: found) ((name, value) :: members) := by
  intro depth hfits
  obtain ⟨hvalue, hmembers⟩ := List.forall_mem_cons.mp hfits
  exact Shape.entries_eq_ok_iff.mpr
    (.cons ⟨hkey, h depth hvalue⟩ (Shape.entries_eq_ok_iff.mp (hrest depth hmembers)))

/-- Items that write values make up a list that writes the array of them. -/
theorem ItemsWrite.any {found : List (Node × Closing)} {items : List Value} {mark : Nat}
    {opened : Closing} (h : ItemsWrite found items) (depth : Nat)
    (hfits : (Value.array items).Fits depth) :
    Shape.any depth (.list mark opened found none) = .ok (.array items) := by
  cases hfits with
  | array hitems =>
    simp [Shape.any, h _ hitems, Shape.whole, bind, Except.bind, pure, Except.pure]

/-- Entries that write members make up a table that writes the object of them. -/
theorem EntriesWrite.any {found : Members} {members : List (String × Value)} {mark : Nat}
    {opened : Closing} (h : EntriesWrite found members) (depth : Nat)
    (hfits : (Value.object members).Fits depth) :
    Shape.any depth (.table mark opened found none) = .ok (.object members) := by
  cases hfits with
  | object hnames hmembers =>
    simp [Shape.any, h _ hmembers, Shape.whole, Value.ofMembers, hnames.ofList_eq, bind,
      Except.bind, pure, Except.pure]

end Shapes

theorem head_words (value : Value) :
    ∃ word more, value.words = word :: more ∧ word.2 ≠ .sign .closeList := by
  cases value with
  | null | bool b | integer n | float x | string s =>
    exact ⟨_, [], rfl, by simp [scalarWord, stringWord]⟩
  | array items => exact ⟨_, _, rfl, by simp [signWord]⟩
  | object members => exact ⟨_, _, rfl, by simp [signWord]⟩

theorem length_pos_of_words {value : Value} {tokens : List Token}
    (h : tokens.map Token.word = value.words) : 0 < tokens.length := by
  obtain ⟨word, more, hwords, -⟩ := head_words value
  obtain ⟨_, _, rfl, -, -⟩ := List.map_eq_cons_iff.mp (h.trans hwords)
  simp

theorem head_itemWords (item : Value) (rest : List Value) :
    ∃ word more, itemWords (item :: rest) = word :: more ∧ word.2 ≠ .sign .closeList := by
  obtain ⟨word, more, hwords, hne⟩ := head_words item
  cases rest with
  | nil => exact ⟨word, more, hwords, hne⟩
  | cons next rest =>
    exact ⟨word, more ++ signWord .comma :: itemWords (next :: rest),
      by rw [itemWords, hwords, List.cons_append]; simp, hne⟩

/-- The words of members: a name, a colon and a value, with commas between. -/
theorem memberWords_cons (member : String × Value) (rest : List (String × Value)) :
    ∃ more, memberWords (member :: rest) =
      stringWord member.1 :: signWord .colon :: (member.2.words ++ more) ∧
        (rest = [] ∧ more = [] ∨ rest ≠ [] ∧ more = signWord .comma :: memberWords rest) := by
  cases rest with
  | nil => exact ⟨[], by simp [memberWords], .inl ⟨rfl, rfl⟩⟩
  | cons next rest => exact ⟨_, rfl, .inr ⟨by simp, rfl⟩⟩

variable {size : Nat}

/-- A value without parts is one token, and is read back from it. -/
theorem readValue_scalarWord {s : Scalar} {value : Value} {tokens after : List Token} {fuel : Nat}
    (hwords : tokens.map Token.word = [scalarWord s]) (hfuel : 3 * tokens.length ≤ fuel)
    (hany : ∀ depth mark, Shape.any depth (.scalar mark s) = .ok value) :
    ∃ node, readValue size fuel (tokens ++ after) = (node, after) ∧
      ∀ depth, value.Fits depth → Shape.any depth node = .ok value := by
  obtain ⟨token, _, rfl, htoken, hnone⟩ := List.map_eq_cons_iff.mp hwords
  obtain rfl := List.map_eq_nil_iff.mp hnone
  obtain ⟨fuel, rfl⟩ : ∃ more, fuel = more + 1 := ⟨fuel - 1, by simp at hfuel; omega⟩
  have hlexeme : token.lexeme = .scalar s := by
    rw [show token.lexeme = (scalarWord s).2 from congrArg Prod.snd htoken]
    cases s <;> rfl
  exact ⟨_, readValue_scalar hlexeme, fun depth _ => hany depth _⟩

/-- An array is read as a list with items that write its own, if these are. -/
theorem readValue_listWords {items : List Value} {tokens : List Token} (after : List Token)
    {fuel : Nat}
    (hwords : tokens.map Token.word = (Value.array items).words) (hfuel : 3 * tokens.length ≤ fuel)
    (hitem : items ≠ [] → ∀ inner close fuel, inner.map Token.word = itemWords items →
      close.lexeme = .sign .closeList → 3 * inner.length + 1 ≤ fuel → ∃ found,
        readItem size fuel (inner ++ close :: after) = (found, none, after) ∧
          ItemsWrite found items) :
    ∃ mark opened found,
      readValue size fuel (tokens ++ after) = (.list mark opened found none, after) ∧
        ItemsWrite found items := by
  obtain ⟨first, _, rfl, hfirst, hmore⟩ := List.map_eq_cons_iff.mp hwords
  obtain ⟨inner, _, rfl, hinner, hend⟩ := List.map_eq_append_iff.mp hmore
  obtain ⟨close, _, rfl, hclose, hnone⟩ := List.map_eq_cons_iff.mp hend
  obtain rfl := List.map_eq_nil_iff.mp hnone
  simp only [List.length_cons, List.length_append, List.length_nil] at hfuel
  obtain ⟨fuel, rfl⟩ : ∃ more, fuel = more + 2 := ⟨fuel - 2, by omega⟩
  suffices hread : ∃ found, readItems size (fuel + 1) true (inner ++ close :: after) =
      (found, none, after) ∧ ItemsWrite found items by
    obtain ⟨found, hread, hfound⟩ := hread
    rw [List.cons_append, List.append_assoc]
    exact ⟨_, _, found, readValue_list (congrArg Prod.snd hfirst) hread, hfound⟩
  cases items with
  | nil =>
    obtain rfl := List.map_eq_nil_iff.mp hinner
    exact ⟨[], readItems_close (congrArg Prod.snd hclose) true, .nil⟩
  | cons item rest =>
    obtain ⟨found, hread, hfound⟩ :=
      hitem (by simp) inner close fuel hinner (congrArg Prod.snd hclose) (by omega)
    obtain ⟨word, words, hhead, hne⟩ := head_itemWords item rest
    obtain ⟨token, _, rfl, rfl, -⟩ := List.map_eq_cons_iff.mp (hinner.trans hhead)
    exact ⟨found, (readItems_first hne).trans hread, hfound⟩

/-- An object is read as a table with entries that write its members, if its members are. -/
theorem readValue_tableWords {members : List (String × Value)} {tokens : List Token}
    (after : List Token) {fuel : Nat}
    (hwords : tokens.map Token.word = (Value.object members).words)
    (hfuel : 3 * tokens.length ≤ fuel)
    (hmember : ∀ key more close fuel, (key :: more).map Token.word = memberWords members →
      close.lexeme = .sign .closeTable → 3 * more.length + 1 ≤ fuel → ∃ found,
        readMember size fuel key (more ++ close :: after) = (found, none, after) ∧
          EntriesWrite found members) :
    ∃ mark opened found,
      readValue size fuel (tokens ++ after) = (.table mark opened found none, after) ∧
        EntriesWrite found members := by
  obtain ⟨first, _, rfl, hfirst, hmore⟩ := List.map_eq_cons_iff.mp hwords
  obtain ⟨inner, _, rfl, hinner, hend⟩ := List.map_eq_append_iff.mp hmore
  obtain ⟨close, _, rfl, hclose, hnone⟩ := List.map_eq_cons_iff.mp hend
  obtain rfl := List.map_eq_nil_iff.mp hnone
  simp only [List.length_cons, List.length_append, List.length_nil] at hfuel
  obtain ⟨fuel, rfl⟩ : ∃ more, fuel = more + 2 := ⟨fuel - 2, by omega⟩
  suffices hread : ∃ found, readMembers size (fuel + 1) true (inner ++ close :: after) =
      (found, none, after) ∧ EntriesWrite found members by
    obtain ⟨found, hread, hfound⟩ := hread
    rw [List.cons_append, List.append_assoc]
    exact ⟨_, _, found, readValue_table (congrArg Prod.snd hfirst) hread, hfound⟩
  cases members with
  | nil =>
    obtain rfl := List.map_eq_nil_iff.mp hinner
    exact ⟨[], readMembers_close (congrArg Prod.snd hclose) true, .nil⟩
  | cons member rest =>
    obtain ⟨more, hsplit, -⟩ := memberWords_cons member rest
    obtain ⟨key, inner, rfl, hkey, -⟩ := List.map_eq_cons_iff.mp (hinner.trans hsplit)
    rw [List.length_cons] at hfuel
    obtain ⟨found, hread, hfound⟩ :=
      hmember key inner close fuel hinner (congrArg Prod.snd hclose) (by omega)
    exact ⟨found, (readMembers_first hkey).trans hread, hfound⟩

mutual

/-- The words of a value are read as a document that writes it. -/
theorem readValue_words (value : Value) {tokens : List Token} (after : List Token) {fuel : Nat}
    (hwords : tokens.map Token.word = value.words) (hfuel : 3 * tokens.length ≤ fuel) :
    ∃ node, readValue size fuel (tokens ++ after) = (node, after) ∧
      ∀ depth, value.Fits depth → Shape.any depth node = .ok value := by
  match value with
  | .null => exact readValue_scalarWord hwords hfuel fun _ _ => by simp [Shape.any]
  | .bool b => exact readValue_scalarWord hwords hfuel fun _ _ => by simp [Shape.any]
  | .integer n => exact readValue_scalarWord hwords hfuel fun _ _ => by simp [Shape.any]
  | .float x => exact readValue_scalarWord hwords hfuel fun _ _ => by simp [Shape.any]
  | .string s => exact readValue_scalarWord hwords hfuel fun _ _ => by simp [Shape.any]
  | .array items =>
    obtain ⟨_, _, _, hread, hfound⟩ := readValue_listWords after hwords hfuel
      fun hne _ _ _ hinner hclose hfuel => readItem_words items hne after hinner hclose hfuel
    exact ⟨_, hread, hfound.any⟩
  | .object members =>
    obtain ⟨_, _, _, hread, hfound⟩ := readValue_tableWords after hwords hfuel
      fun _ _ _ _ hmore hclose hfuel => readMember_words members after hmore hclose hfuel
    exact ⟨_, hread, hfound.any⟩

/-- The words of one item and of those behind it. -/
theorem readItem_words (items : List Value) (hne : items ≠ []) {tokens : List Token}
    {close : Token} (after : List Token) {fuel : Nat}
    (hwords : tokens.map Token.word = itemWords items) (hclose : close.lexeme = .sign .closeList)
    (hfuel : 3 * tokens.length + 1 ≤ fuel) :
    ∃ found, readItem size fuel (tokens ++ close :: after) = (found, none, after) ∧
      ItemsWrite found items := by
  match items with
  | [item] =>
    have hpos := length_pos_of_words hwords
    obtain ⟨fuel, rfl⟩ : ∃ more, fuel = more + 2 := ⟨fuel - 2, by omega⟩
    have hfuel : 3 * tokens.length ≤ fuel + 1 := by omega
    obtain ⟨node, hread, hnode⟩ := readValue_words item (close :: after) hwords hfuel
    exact ⟨_, readItem_step hread (readItems_close hclose false), .cons hnode .nil⟩
  | item :: next :: rest =>
    obtain ⟨first, _, rfl, hfirst, hmore⟩ := List.map_eq_append_iff.mp hwords
    obtain ⟨comma, more, rfl, hcomma, hrest⟩ := List.map_eq_cons_iff.mp hmore
    have hpos := length_pos_of_words hfirst
    simp only [List.length_append, List.length_cons] at hfuel
    obtain ⟨fuel, rfl⟩ : ∃ more, fuel = more + 2 := ⟨fuel - 2, by omega⟩
    have hitem : 3 * first.length ≤ fuel + 1 := by omega
    have hothers : 3 * more.length + 1 ≤ fuel := by omega
    obtain ⟨node, hread, hnode⟩ :=
      readValue_words item (comma :: (more ++ close :: after)) hfirst hitem
    obtain ⟨found, hitems, hfound⟩ :=
      readItem_words (next :: rest) (by simp) after hrest hclose hothers
    obtain ⟨word, words, hhead, hne⟩ := head_itemWords next rest
    obtain ⟨token, more, rfl, rfl, -⟩ := List.map_eq_cons_iff.mp (hrest.trans hhead)
    rw [List.append_assoc]
    exact ⟨_, readItem_step hread
      ((readItems_comma (congrArg Prod.snd hcomma) hne).trans hitems), .cons hnode hfound⟩

/-- The words of one member, its name read already, and of those behind it. -/
theorem readMember_words (members : List (String × Value)) {key : Token} {tokens : List Token}
    {close : Token} (after : List Token) {fuel : Nat}
    (hwords : (key :: tokens).map Token.word = memberWords members)
    (hclose : close.lexeme = .sign .closeTable) (hfuel : 3 * tokens.length + 1 ≤ fuel) :
    ∃ found, readMember size fuel key (tokens ++ close :: after) = (found, none, after) ∧
      EntriesWrite found members := by
  match members with
  | [] => cases hwords
  | (name, value) :: rest =>
    obtain ⟨more, hsplit, hrest⟩ := memberWords_cons (name, value) rest
    rw [hsplit] at hwords
    obtain ⟨hkey, hwords⟩ := List.cons.inj hwords
    obtain ⟨colon, _, rfl, hcolon, hwords⟩ := List.map_eq_cons_iff.mp hwords
    obtain ⟨first, behind, rfl, hfirst, hbehind⟩ := List.map_eq_append_iff.mp hwords
    simp only [List.length_append, List.length_cons] at hfuel
    obtain ⟨fuel, rfl⟩ : ∃ more, fuel = more + 2 := ⟨fuel - 2, by omega⟩
    -- name, colon and value take three steps at most, which is what the bound on the fuel counts
    have hvalue : 3 * first.length ≤ fuel + 1 := by omega
    obtain ⟨node, hread, hnode⟩ := readValue_words value (behind ++ close :: after) hfirst hvalue
    rw [List.cons_append, List.append_assoc]
    rcases hrest with ⟨rfl, rfl⟩ | ⟨hne, rfl⟩
    · obtain rfl := List.map_eq_nil_iff.mp hbehind
      exact ⟨_, readMember_step hkey (congrArg Prod.snd hcolon) hread
        (readMembers_close hclose false), .cons rfl hnode .nil⟩
    · obtain ⟨comma, _, rfl, hcomma, hnext⟩ := List.map_eq_cons_iff.mp hbehind
      obtain ⟨member, members, rfl⟩ := List.exists_cons_of_ne_nil hne
      obtain ⟨more, hsplit', -⟩ := memberWords_cons member members
      obtain ⟨key', tokens, rfl, hkey', -⟩ := List.map_eq_cons_iff.mp (hnext.trans hsplit')
      simp only [List.length_cons] at hfuel
      have hothers : 3 * tokens.length + 1 ≤ fuel := by omega
      obtain ⟨found, hmembers, hfound⟩ :=
        readMember_words (member :: members) after hnext hclose hothers
      exact ⟨_, readMember_step hkey (congrArg Prod.snd hcolon) hread
        ((readMembers_comma (congrArg Prod.snd hcomma) hkey').trans hmembers),
        .cons rfl hnode hfound⟩

end

/-- A text is read by reading its tokens. -/
theorem readText_eq {text : String} {node : Node}
    (h : readValue text.utf8ByteSize (3 * (tokens text).length + 3) (tokens text ++ []) =
      (node, [])) : readText text = (node, none) := by
  rw [List.append_nil] at h
  simp [readText, h]

/-- An object, its members in any order, is written as a text that is read as a table with entries
that write them. -/
theorem readText_object {members : List (String × Value)} {depth : Nat}
    (hfits : ∀ member ∈ members, member.2.Fits depth)
    (hfree : ∀ member ∈ members, member.2.FloatFree) :
    ∃ mark opened found,
      readText (Value.object members).compact = (.table mark opened found none, none) ∧
        EntriesWrite found members := by
  have hscan : Scans (Value.object members).compact.toList (Value.object members).words [] := by
    have hobject := Scans.object (scans_compactMembers hfits hfree (stops_mark .closeTable []))
    rwa [List.append_nil, ← String.toList_ofList (l := (Value.object members).compactChars)]
      at hobject
  obtain ⟨mark, opened, found, hread, hfound⟩ := readValue_tableWords [] hscan.tokens
    (Nat.le_add_right _ 3)
    fun _ _ _ _ hmore hclose hfuel => readMember_words members [] hmore hclose hfuel
  exact ⟨mark, opened, found, readText_eq hread, hfound⟩

/-- What is written of a value is read as that value. -/
theorem readText_compact {value : Value} {depth : Nat} (hfits : value.Fits depth)
    (hfree : value.FloatFree) :
    ∃ node, readText value.compact = (node, none) ∧
      ∀ depth, value.Fits depth → Shape.any depth node = .ok value := by
  have hscan : Scans value.compact.toList value.words [] := by
    have hvalue := scans_compactChars hfits hfree stops_nil
    rwa [List.append_nil, ← String.toList_ofList (l := value.compactChars)] at hvalue
  obtain ⟨node, hread, hnode⟩ := readValue_words value [] hscan.tokens (Nat.le_add_right _ 3)
  exact ⟨node, readText_eq hread, hnode⟩

theorem parse_compact {value : Value} (hfits : value.Fits depthLimit) (hfree : value.FloatFree) :
    parse value.compact = .ok value := by
  obtain ⟨node, hread, hnode⟩ := readText_compact hfits hfree
  refine read_eq_ok_iff.mpr ⟨?_, by rw [hread]⟩
  rw [hread]
  exact hnode depthLimit hfits

mutual

theorem any_toNode (value : Value) {depth : Nat} (hfits : value.Fits depth) :
    Shape.any depth value.toNode = .ok value := by
  match value with
  | .null => simp [Value.toNode, Node.plain, Shape.any]
  | .bool b => simp [Value.toNode, Node.plain, Shape.any]
  | .integer n => simp [Value.toNode, Node.plain, Shape.any]
  | .float x => simp [Value.toNode, Node.plain, Shape.any]
  | .string s => simp [Value.toNode, Node.plain, Shape.any]
  | .array items => exact (itemsWrite_itemNodes items items.length).any depth hfits
  | .object members => exact (entriesWrite_memberNodes members).any depth hfits

theorem itemsWrite_itemNodes (items : List Value) (size : Nat) :
    ItemsWrite (itemNodes size items) items := by
  match items with
  | [] => exact .nil
  | item :: rest =>
    exact .cons (fun _ => any_toNode item) (itemsWrite_itemNodes rest size)

theorem entriesWrite_memberNodes (members : List (String × Value)) :
    EntriesWrite (memberNodes members) members := by
  match members with
  | [] => exact .nil
  | (name, value) :: rest =>
    exact .cons rfl (fun _ => any_toNode value) (entriesWrite_memberNodes rest)

end

end DashboardCheck.Json
