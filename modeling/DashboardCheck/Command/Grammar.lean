import DashboardCheck.Command.Line

/-!
The options and the tree of commands. A word at a branch leads to the command of that name; only a
leaf is a command that can be carried out.
-/
namespace DashboardCheck.CommandLine

/-- An option. All take a value. -/
inductive Key where
  | config | logLevel | output | only | username | role | part
  deriving DecidableEq, Repr

namespace Key

def name : Key → String
  | config => "config"
  | logLevel => "log-level"
  | output => "output"
  | only => "only"
  | username => "username"
  | role => "role"
  | part => "section"

def placeholder : Key → String
  | config => "CONFIG"
  | logLevel => "LOG_LEVEL"
  | output => "OUTPUT"
  | only => "NAME"
  | username => "USERNAME"
  | role => "ROLE"
  | part => "SECTION"

def text (key : Key) : String := s!"--{key.name} <{key.placeholder}>"

def letter? : Key → Option Char
  | config => some 'c'
  | _ => none

/-- Whether an option can be given more than once at a level. -/
def isRepeatable : Key → Bool
  | only => true
  | _ => false

/-- The values that an option may have; any value if none are listed. -/
def choices : Key → List String
  | output => [Format.text.name, Format.json.name]
  | _ => []

/-- Whether an option cannot have the empty value. -/
def needsText : Key → Bool
  | config => true
  | output => true
  | _ => false

end Key

/-- A command that can be carried out. -/
inductive Leaf where
  | run | probe | addUser | validate | display
  deriving DecidableEq, Repr

inductive Level where
  | top | config
  | leaf (command : Leaf)
  deriving DecidableEq, Repr

namespace Level

def below : Level → List (String × Level)
  | top => [("run", leaf .run), ("probe", leaf .probe), ("add-user", leaf .addUser),
    ("config", config)]
  | config => [("validate", leaf .validate), ("show", leaf .display)]
  | leaf _ => []

def isBranch : Level → Bool
  | leaf _ => false
  | _ => true

def step? (level : Level) (word : String) : Option Level :=
  (level.below.find? fun entry => entry.1 == word).map Prod.snd

def shared : List Key := [.logLevel, .output]

def keys : Level → List Key
  | top => .config :: shared
  | leaf .run => .only :: shared
  | leaf .addUser => .username :: .role :: shared
  | leaf .display => .part :: shared
  | _ => shared

/-- The word at a branch that asks for help on it or on a command below. -/
def helpWord : String := "help"

def knows (level : Level) (word : String) : Bool :=
  level.isBranch && (word == helpWord || (level.step? word).isSome)

end Level

end DashboardCheck.CommandLine
