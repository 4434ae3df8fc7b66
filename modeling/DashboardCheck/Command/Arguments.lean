import DashboardCheck.Command.Refusal

/-!
Reading a command line. The words behind a command belong to that command. An option takes its value
from its own word or from the word behind it; in the second case the value is looked at only when
the next option or the end of the line is reached, so that a fault of a command below is found
first.
-/
namespace DashboardCheck

namespace CommandLine

open Text

inductive Argument where
  /-- The mark behind which there are no options. -/
  | mark
  /-- A name with a value of its own, perhaps. -/
  | long (name : String) (value : Option String)
  /-- A letter and what follows it. -/
  | short (letter : Char) (rest : List Char)
  | word (text : String)
  deriving DecidableEq, Repr

def Argument.ofText (s : String) : Argument :=
  match s.toList with
  | ['-', '-'] => mark
  | '-' :: '-' :: rest =>
    match cutFirst '=' rest with
    | some (name, value) => long (String.ofList name) (some (String.ofList value))
    | none => long (String.ofList rest) none
  | '-' :: c :: rest => short c rest
  | _ => word s

/-- The values that are given at a level, first things first. -/
abbrev Values := List (Key × String)

def Values.get? (values : Values) (key : Key) : Option String :=
  (values.find? fun entry => entry.1 == key).map Prod.snd

def Values.all (values : Values) (key : Key) : List String :=
  (values.filter fun entry => entry.1 == key).map Prod.snd

def Values.put (values : Values) (key : Key) (value : String) : Except Refusal Values :=
  if !key.isRepeatable && (values.get? key).isSome then .error (.repeated key)
  else if key.needsText && value.isEmpty then .error (.noValue key)
  else if !key.choices.isEmpty && !key.choices.contains value then .error (.badValue key value)
  else .ok (values ++ [(key, value)])

/-- The way to a command. -/
structure Route where
  command : Leaf
  /-- The values at the command's own level. -/
  own : Values
  /-- The values at all levels, the top first. -/
  all : List Values
  deriving DecidableEq, Repr

structure Reading where
  values : Values
  /-- An option that was not looked at yet, with its value if that was read. -/
  pending : Option (Key × Option String)
  deriving DecidableEq, Repr

namespace Reading

def start : Reading := ⟨[], none⟩

/-- Looks at the option that was not looked at yet. -/
def settle (r : Reading) : Except Refusal Values :=
  match r.pending with
  | none => .ok r.values
  | some (key, none) => .error (.noValue key)
  | some (key, some value) => r.values.put key value

def awaiting? (r : Reading) : Option Key :=
  match r.pending with
  | some (key, none) => some key
  | _ => none

/-- An option without a value of its own. -/
def await (r : Reading) (key : Key) : Except Refusal Reading := do
  return ⟨← r.settle, some (key, none)⟩

def take (r : Reading) (key : Key) (value : String) : Except Refusal Reading := do
  return ⟨← (← r.settle).put key value, none⟩

def halt (r : Reading) (why : Refusal) : Except Refusal Reading := do
  let _ ← r.settle
  throw why

def long (level : Level) (r : Reading) (name : String) (value : Option String) :
    Except Refusal Reading :=
  match level.keys.find? fun key => key.name == name with
  | some key =>
    match value with
    | some value => r.take key value
    | none => r.await key
  | none =>
    if name = "help" || (name = "version" && level = .top) then
      match value with
      | some value => .error (.needlessValue name value)
      | none => r.halt (if name = "help" then .help else .version)
    else .error (.unknownArgument s!"--{name}")

def short (level : Level) (r : Reading) (letter : Char) (rest : List Char) :
    Except Refusal Reading :=
  match level.keys.find? fun key => key.letter? == some letter with
  | some key =>
    match rest with
    | [] => r.await key
    | '=' :: value => r.take key (String.ofList value)
    | value => r.take key (String.ofList value)
  | none =>
    if letter = 'h' then r.halt .help
    else if letter = 'V' && level = .top then r.halt .version
    else .error (.unknownArgument s!"-{letter}")

def finish (level : Level) (r : Reading) : Except Refusal Route := do
  let values ← r.settle
  match level with
  | .leaf command => return ⟨command, values, [values]⟩
  | _ => throw (if values.isEmpty then .nothing else .noCommand)

def stray (level : Level) (word : String) : Refusal :=
  if level.isBranch then .unknownCommand word else .unknownArgument word

/-- The end of the line behind the mark. No level takes words there. -/
def finishMarked (level : Level) (r : Reading) : List String → Except Refusal Route
  | [] => r.finish level
  | word :: _ => .error (if level.knows word then .unknownArgument word else stray level word)

end Reading

def helpOn (level : Level) : List String → Refusal
  | [] => .help
  | word :: rest =>
    match level.step? word with
    | some next => helpOn next rest
    | none =>
      if level.isBranch && word = Level.helpWord && rest.isEmpty then .help
      else .unknownCommand (if level.isBranch && word = Level.helpWord then rest.headD "" else word)

def readFrom (level : Level) (r : Reading) : List String → Except Refusal Route
  | [] => r.finish level
  | s :: rest =>
    match r.awaiting?, level.step? s with
    | none, some next => do
      let route ← readFrom next .start rest
      return { route with all := (← r.settle) :: route.all }
    | awaiting, _ =>
      if awaiting.isNone && level.knows s then .error (helpOn level rest)
      else match Argument.ofText s with
        | .mark => r.finishMarked level rest
        | .long name value => do readFrom level (← r.long level name value) rest
        | .short letter more => do readFrom level (← r.short level letter more) rest
        | .word text =>
          match awaiting with
          | some key => readFrom level { r with pending := some (key, some text) } rest
          | none => .error (Reading.stray level text)

/-- The value of an option on the way to a command: the lowest level counts. -/
def Route.get? (route : Route) (key : Key) : Option String :=
  (route.all.filterMap fun values => values.get? key).getLast?

def Route.toCommand (route : Route) : Command :=
  match route.command with
  | .run => .run (route.own.all .only)
  | .probe => .probe
  | .addUser => .addUser (route.own.get? .username) (route.own.get? .role)
  | .validate => .validate
  | .display => .display (route.own.get? .part)

def ofRoute (route : Route) : CommandLine where
  config := (route.get? .config).getD defaultConfig
  logLevel := route.get? .logLevel
  output := ((route.get? .output).bind Format.ofName?).getD .text
  command := route.toCommand

def ofArguments (arguments : List String) : Except Refusal CommandLine :=
  (readFrom .top .start arguments).map ofRoute

end CommandLine

end DashboardCheck
