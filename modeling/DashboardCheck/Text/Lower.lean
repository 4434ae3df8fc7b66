import DashboardCheck.Text.CaseTable

/-!
Lower case by the Unicode standard. One letter, the capital I with a dot, becomes two characters,
and a capital sigma at the end of a word becomes the final sigma; all else maps letter by letter.
-/
namespace DashboardCheck.Text

def lowerChar (c : Char) : List Char :=
  let n := c.toNat
  if n < 0x80 then [c.toLower]
  else if n = 0x130 then ['i', Char.ofNat 0x307]
  else match lowerRuns.find? fun (first, last, step, _) =>
      first ≤ n && n ≤ last && (n - first) % step == 0 with
    | some (_, _, _, shift) => [Char.ofNat ((n : Int) + shift).toNat]
    | none => [c]

def nextIsCased (cs : List Char) : Bool :=
  match cs.dropWhile fun c => inIntervals caseIgnorableIntervals c.toNat with
  | c :: _ => inIntervals casedIntervals c.toNat
  | [] => false

def lowerAfter (earlier : List Char) : List Char → List Char
  | [] => []
  | c :: rest =>
    (if c = 'Σ' then
      [if nextIsCased earlier && !nextIsCased rest then 'ς' else 'σ']
    else lowerChar c) ++ lowerAfter (c :: earlier) rest

def lower (s : String) : String :=
  String.ofList (lowerAfter [] s.toList)

end DashboardCheck.Text
