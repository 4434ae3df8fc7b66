import DashboardCheck.Json.Token

/-!
The document that a row of JSON tokens makes. The reader never fails: where the tokens stop fitting,
the document says so.
-/
namespace DashboardCheck.Json

open Document

/-- What happens to one who wants a list to end before these tokens; the text ends at `size`. -/
def closeList (size : Nat) : List Token → Closing
  | [] => ⟨some ⟨.endInList, size⟩, size⟩
  | token :: rest =>
    match token.lexeme, rest with
    | .sign .closeList, _ => ⟨none, token.stop⟩
    | .sign .comma, [] => ⟨some ⟨.trailing, size⟩, size⟩
    | .sign .comma, next :: _ =>
      match next.lexeme with
      | .sign .closeList => ⟨some ⟨.commaBeforeEnd, next.start + 1⟩, next.start⟩
      | _ => ⟨some ⟨.trailing, next.start + 1⟩, next.start⟩
    | _, _ => ⟨some ⟨.trailing, token.start + 1⟩, token.start⟩

/-- What happens to one who wants a table to end before these tokens. -/
def closeTable (size : Nat) : List Token → Closing
  | [] => ⟨some ⟨.endInTable, size⟩, size⟩
  | token :: _ =>
    match token.lexeme with
    | .sign .closeTable => ⟨none, token.stop⟩
    | .sign .comma => ⟨some ⟨.commaBeforeEnd, token.start + 1⟩, token.start⟩
    | _ => ⟨some ⟨.trailing, token.start + 1⟩, token.start⟩

mutual

def readValue (size : Nat) : Nat → List Token → Node × List Token
  | 0, _ => (.broken (.both .endInValue size), [])
  | _, [] => (.broken (.both .endInValue size), [])
  | fuel + 1, token :: rest =>
    match token.lexeme with
    | .scalar value => (.scalar token.stop value, rest)
    | .unreadable fault => (.unreadable fault, rest)
    | .broken trouble => (.broken trouble, rest)
    | .sign .openList =>
      let (items, stop, after) := readItems size fuel true rest
      (.list token.start (closeList size rest) items stop, after)
    | .sign .openTable =>
      let (members, stop, after) := readMembers size fuel true rest
      (.table token.start (closeTable size rest) members stop, after)
    | .sign _ => (.broken (.both .noValue (token.start + 1)), rest)

/-- The items up to the end of a list; `first` says that none has been read. -/
def readItems (size : Nat) : Nat → Bool → List Token →
    List (Node × Closing) × Option Break × List Token
  | 0, _, _ => ([], some (.both .endInList size), [])
  | _, _, [] => ([], some (.both .endInList size), [])
  | fuel + 1, first, token :: rest =>
    match token.lexeme, first, rest with
    | .sign .closeList, _, _ => ([], none, rest)
    | _, true, _ => readItem size fuel (token :: rest)
    | .sign .comma, false, [] => ([], some (.both .endInValue size), [])
    | .sign .comma, false, next :: _ =>
      match next.lexeme with
      | .sign .closeList =>
        ([], some ⟨⟨.commaBeforeEnd, next.start + 1⟩, ⟨.noValue, next.start + 1⟩⟩, [])
      | _ => readItem size fuel rest
    | _, false, _ => ([], some (.both .noListEnd (token.start + 1)), [])

def readItem (size : Nat) : Nat → List Token → List (Node × Closing) × Option Break × List Token
  | 0, _ => ([], some (.both .endInList size), [])
  | fuel + 1, tokens =>
    let (node, after) := readValue size fuel tokens
    let (items, stop, behind) := readItems size fuel false after
    ((node, closeList size after) :: items, stop, behind)

/-- The entries up to the end of a table; `first` says that none has been read. -/
def readMembers (size : Nat) : Nat → Bool → List Token →
    List (Key × Node × Closing) × Option Break × List Token
  | 0, _, _ => ([], some (.both .endInTable size), [])
  | _, _, [] => ([], some (.both .endInTable size), [])
  | fuel + 1, first, token :: rest =>
    match token.lexeme, first, rest with
    | .sign .closeTable, _, _ => ([], none, rest)
    | _, true, _ =>
      if token.isText then readMember size fuel token rest
      else ([], some (.both .keyNotString (token.start + 1)), [])
    | .sign .comma, false, [] =>
      ([], some ⟨⟨.endInValue, size⟩, ⟨.endInTable, size⟩⟩, [])
    | .sign .comma, false, next :: more =>
      if next.isText then readMember size fuel next more
      else match next.lexeme with
        | .sign .closeTable =>
          ([], some ⟨⟨.commaBeforeEnd, next.start + 1⟩, ⟨.keyNotString, next.start + 1⟩⟩, [])
        | _ => ([], some (.both .keyNotString (next.start + 1)), [])
    | _, false, _ => ([], some (.both .noTableEnd (token.start + 1)), [])

def readMember (size : Nat) : Nat → Token → List Token →
    List (Key × Node × Closing) × Option Break × List Token
  | 0, _, _ => ([], some (.both .endInTable size), [])
  | fuel + 1, key, tokens =>
    let name : Except Break (Except Fault String) := match key.lexeme with
      | .scalar (.string s) => .ok (.ok s)
      | .unreadable fault => .ok (.error fault)
      | .broken trouble => .error trouble
      | _ => .error (.both .keyNotString (key.start + 1))
    match name with
    | .error trouble => ([], some trouble, [])
    | .ok name =>
      let (node, after) := match tokens with
        | [] => (Node.broken (.both .endInTable size), [])
        | colon :: rest =>
          match colon.lexeme with
          | .sign .colon => readValue size fuel rest
          | _ => (Node.broken (.both .noColon (colon.start + 1)), [])
      let (members, stop, behind) := readMembers size fuel false after
      ((⟨name, closeTable size tokens⟩, node, closeTable size after) :: members, stop, behind)

end

/-- A text as a document, and the trouble that something follows it. -/
def readText (text : String) : Node × Option Fault :=
  let all := tokens text
  let (node, rest) := readValue text.utf8ByteSize (3 * all.length + 3) all
  (node, rest.head?.map fun token => ⟨.trailing, token.start + 1⟩)

end DashboardCheck.Json
