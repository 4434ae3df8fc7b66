import DashboardCheck.Text.Split

/-!
Text that is set off on a terminal. A styled text starts with the sequence for its styles and ends
with the one that undoes all styles; where the text itself undoes them, its own are started again.
-/
namespace DashboardCheck.Text

/-- A way to set text off. -/
inductive Style where
  | bold | dimmed | red | green | yellow
  deriving DecidableEq, Repr

def Style.code : Style → String
  | bold => "1"
  | dimmed => "2"
  | red => "31"
  | green => "32"
  | yellow => "33"

def startOf (styles : List Style) : List Char :=
  '\x1b' :: '[' :: (join ";" (styles.map Style.code)).toList ++ ['m']

def undo : List Char := ['\x1b', '[', '0', 'm']

def resume (start : List Char) : List Char → List Char
  | [] => []
  | '\x1b' :: '[' :: '0' :: 'm' :: rest => undo ++ start ++ resume start rest
  | c :: rest => c :: resume start rest

def styled (colour : Bool) (styles : List Style) (s : String) : String :=
  if colour then
    String.ofList (startOf styles ++ resume (startOf styles) s.toList ++ undo)
  else s

@[simp] theorem styled_false (styles : List Style) (s : String) : styled false styles s = s := rfl

end DashboardCheck.Text
