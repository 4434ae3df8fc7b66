import DashboardCheck.Json.Reading
import DashboardCheck.Number.Numeral
import DashboardCheck.Orchestrator.Error
import DashboardCheck.Release.Basic

/-!
The status of a deployed model: its applications, their units, and the units of subordinate
applications, which are listed under the units they accompany.
-/
namespace DashboardCheck

open Document Json

inductive UnitStatus where
  | mk (address : Option String) (leader : Option Bool) (subordinates : List (String × UnitStatus))

def UnitStatus.address : UnitStatus → Option String
  | mk address _ _ => address

def UnitStatus.subordinates : UnitStatus → Dict UnitStatus
  | mk _ _ subordinates => subordinates

/-- The operating system under an application. -/
inductive Base where
  /-- In one text, such as `ubuntu@22.04`. -/
  | plain (text : String)
  /-- The channel by itself, such as `22.04`. -/
  | channel (name : String)
  deriving DecidableEq, Repr

structure ApplicationStatus where
  series : Option String
  base : Option Base
  units : Dict UnitStatus

structure ModelStatus where
  applications : Dict ApplicationStatus

def Base.shape : Shape Base :=
  fun depth node => do
    let value ← Shape.any depth node
    match value, node with
    | .string s, _ => return .plain s
    | _, .table _ _ members _ =>
      match members.filter fun member => member.1.name.toOption == some "channel" with
      | [(_, .scalar _ (.string name), _)] => return .channel name
      | _ => throw ⟨.noAlternative "Base", none⟩
    | _, _ => throw ⟨.noAlternative "Base", none⟩

/-- What is read of a unit. The units that accompany it have a shape of their own. -/
def UnitStatus.record (nested : Shape UnitStatus) : Shape.Record UnitStatus where
  name := "UnitStatus"
  fields :=
    [.withDefault "public-address" (Shape.optional Shape.text) fun address u =>
      .mk address (match u with | .mk _ leader _ => leader) u.subordinates,
     .withDefault "leader" (Shape.optional Shape.bool) fun leader u =>
      .mk u.address leader u.subordinates,
     .withDefault "subordinates" (Shape.dictOf nested) fun subs u =>
      .mk u.address (match u with | .mk _ leader _ => leader) subs]
  start := .mk none none []

/-- Units nest at most as deep as the number says. -/
def UnitStatus.shapeUpTo : Nat → Shape UnitStatus
  | 0 => fun _ node => .error (node.mismatch "struct UnitStatus")
  | levels + 1 => (UnitStatus.record (UnitStatus.shapeUpTo levels)).shape

def UnitStatus.shape : Shape UnitStatus := UnitStatus.shapeUpTo depthLimit

def ApplicationStatus.record : Shape.Record ApplicationStatus where
  name := "ApplicationStatus"
  fields :=
    [.withDefault "series" (Shape.optional Shape.text) fun series a => { a with series },
     .withDefault "base" (Shape.optional Base.shape) fun base a => { a with base },
     .withDefault "units" (Shape.dictOf UnitStatus.shape) fun units a => { a with units }]
  start := ⟨none, none, []⟩

def ApplicationStatus.shape : Shape ApplicationStatus := ApplicationStatus.record.shape

def ModelStatus.record : Shape.Record ModelStatus where
  name := "ModelStatus"
  fields :=
    [.withDefault "applications" (Shape.dictOf ApplicationStatus.shape) fun applications _ =>
      ⟨applications⟩]
  start := ⟨[]⟩

def ModelStatus.shape : Shape ModelStatus := ModelStatus.record.shape

namespace ModelStatus

def command : String := "juju status"

def parse (stdout : String) : Except OrchestratorError ModelStatus :=
  (Json.read shape stdout).mapError fun failure => .output command (Json.describe stdout failure)

def applicationNames (s : ModelStatus) : List String := s.applications.names

def application (s : ModelStatus) (name : String) : Except OrchestratorError ApplicationStatus :=
  match s.applications.get? name with
  | some a => .ok a
  | none => .error (.applicationNotFound name)

/-- What units are ordered by: the part before the last slash, then the number behind it. A unit
without a readable number comes last. -/
def unitKey (unit : String) : String × Nat :=
  match Text.cutLast '/' unit.toList with
  | some (app, n) => (String.ofList app, (Number.natural? Number.max64 n).getD Number.max64)
  | none => (unit, Number.max64)

/-- Whether the first unit does not come after the second. -/
def unitLe (a b : String) : Bool :=
  let (app, n) := unitKey a
  let (app', n') := unitKey b
  app < app' || (app == app' && n ≤ n')

/-- Keeps one of neighbours that are equal. -/
def dropRepeats : List String → List String
  | [] => []
  | [a] => [a]
  | a :: b :: rest => if a = b then dropRepeats (b :: rest) else a :: dropRepeats (b :: rest)

/-- The names of the units that accompany units of any application, as they stand. -/
def subordinateNames (s : ModelStatus) : List String :=
  s.applications.flatMap fun (_, app) =>
    app.units.flatMap fun (_, unit) => unit.subordinates.names

/-- The units of an application in the order of their numbers. An application without units of its
own has those that accompany other units. -/
def units (s : ModelStatus) (app : String) : Except OrchestratorError (List String) := do
  let found ← s.application app
  let own := found.units.names
  let isOfApp (name : String) := (app ++ "/").toList.isPrefixOf name.toList
  let all := if own.isEmpty then s.subordinateNames.filter isOfApp else own
  return dropRepeats (all.mergeSort unitLe)

/-- The first entry of this name: a unit, or one that accompanies it. -/
def findUnit? (s : ModelStatus) (unit : String) : Option UnitStatus :=
  (s.applications.flatMap fun entry => entry.2.units).findSome? fun (name, status) =>
    if name = unit then some status else status.subordinates.get? unit

/-- The public address of a unit. An empty one counts as none. -/
def publicAddress (s : ModelStatus) (unit : String) : Except OrchestratorError String :=
  match ((s.findUnit? unit).bind UnitStatus.address).filter fun address => !address.isEmpty with
  | some address => .ok address
  | none => .error (.unitNotFound unit)

/-- The channel that a base names: what follows the first `@`, or all of it. -/
def channelOf : Base → String
  | .plain text =>
    match Text.cutFirst '@' text.toList with
    | some (_, channel) => String.ofList channel
    | none => text
  | .channel name => name

/-- The Ubuntu series of an application: the one it reports, else the one of its base. -/
def series (s : ModelStatus) (app : String) : Except OrchestratorError String := do
  let found ← s.application app
  match found.series.filter fun series => !series.isEmpty with
  | some series => return series
  | none =>
    match found.base with
    | none => throw (.output command s!"application '{app}' reports neither series nor base")
    | some base =>
      (Release.seriesOfChannel (channelOf base)).mapError fun e => .output command e.message

end ModelStatus

end DashboardCheck
