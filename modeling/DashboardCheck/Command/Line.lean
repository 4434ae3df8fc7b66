import DashboardCheck.Command.Report

/-!
Command lines: what is asked for and the options that go with it.
-/
namespace DashboardCheck

/-- What is asked for. -/
inductive Command where
  /-- Run these scenarios, or all. -/
  | run (only : List String)
  /-- Look at the units. -/
  | probe
  /-- Make a user; a name and a role are found if none are given. -/
  | addUser (username role : Option String)
  /-- Say whether the configuration can be used. -/
  | validate
  /-- Show the configuration, or a section of it. -/
  | display (part : Option String)
  deriving DecidableEq, Repr

structure CommandLine where
  /-- The path of the configuration. -/
  config : String
  logLevel : Option String
  /-- The form of the report. -/
  output : Format
  command : Command
  deriving DecidableEq, Repr

def CommandLine.defaultConfig : String := "dashprobe.toml"

def Format.name : Format → String
  | text => "text"
  | json => "json"

def Format.ofName? (s : String) : Option Format :=
  [text, json].find? fun format => format.name == s

end DashboardCheck
