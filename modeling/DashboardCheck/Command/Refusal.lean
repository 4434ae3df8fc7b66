import DashboardCheck.Command.Grammar

/-!
Why a command line is not carried out. Asking for help or for the version is no failure.
-/
namespace DashboardCheck.CommandLine

/-- Why no command is carried out. -/
inductive Refusal where
  /-- Help is asked for. -/
  | help
  /-- The version is asked for. -/
  | version
  /-- Nothing is asked for. -/
  | nothing
  /-- There are options, but no command. -/
  | noCommand
  | unknownCommand (word : String)
  | unknownArgument (word : String)
  /-- An option is given twice at one level. -/
  | repeated (key : Key)
  | noValue (key : Key)
  | badValue (key : Key) (value : String)
  /-- A flag is given a value. -/
  | needlessValue (flag value : String)
  deriving DecidableEq, Repr

namespace Refusal

/-- The note on the values that an option may have. -/
def choicesOf (key : Key) : String :=
  if key.choices.isEmpty then ""
  else "\n  [possible values: " ++ Text.join ", " key.choices ++ "]"

def message : Refusal → String
  | help => "help was asked for"
  | version => "the version was asked for"
  | nothing => "a command is required"
  | noCommand => "a command is required"
  | unknownCommand word => s!"unrecognized subcommand '{word}'"
  | unknownArgument word => s!"unexpected argument '{word}' found"
  | repeated key => s!"the argument '{key.text}' cannot be used multiple times"
  | noValue key =>
    s!"a value is required for '{key.text}' but none was supplied" ++ choicesOf key
  | badValue key value => s!"invalid value '{value}' for '{key.text}'" ++ choicesOf key
  | needlessValue flag value => s!"unexpected value '{value}' for '--{flag}' found"

def isAnswer : Refusal → Bool
  | help => true
  | version => true
  | _ => false

def code (r : Refusal) : Nat := if r.isAnswer then 0 else 2

end Refusal

end DashboardCheck.CommandLine
