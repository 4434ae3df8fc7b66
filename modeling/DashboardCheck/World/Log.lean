/-!
Log lines. A line has a level, the part of the program that it comes from, a text and named values.
How it is written, and whether at all, is up to the log that is set up.
-/
namespace DashboardCheck

inductive LogLevel where
  | debug | info | warn | error
  deriving DecidableEq, Repr

inductive LogValue where
  | text (s : String)
  | number (n : Nat)
  | flag (b : Bool)
  /-- A time that was measured, in milliseconds. -/
  | elapsed (ms : Nat)
  deriving DecidableEq, Repr

structure LogLine where
  level : LogLevel
  target : String
  text : String
  fields : List (String × LogValue)
  deriving DecidableEq, Repr

/-- The value without the time that it tells. -/
def LogValue.untimed : LogValue → LogValue
  | elapsed _ => elapsed 0
  | value => value

/-- The line without the times that it tells. -/
def LogLine.untimed (line : LogLine) : LogLine :=
  { line with fields := line.fields.map fun field => (field.1, field.2.untimed) }

end DashboardCheck
