import DashboardCheck.Check.Context
import DashboardCheck.Check.Topology

/-!
Looking for the active unit. Each unit is asked once, and redirections are not followed, since they
are what tells the units apart.
-/
namespace DashboardCheck

namespace Context

/-- Where log lines about units come from. -/
def probeTarget : String := "dashprobe_dashboard::probe"

/-- Asks a unit: its address, the base address of its dashboard and the status it answers with. -/
def probe (ctx : Context) (unit : String) : Program CheckError (String × String × Nat) := do
  let address : String ← consult (.address unit)
  let url := ctx.unitUrl address
  let arrival ← ctx.http.get url false
  return (address, url, arrival.response.status)

def probeAll (ctx : Context) : List String → Program CheckError (List (String × Nat))
  | [] => return []
  | unit :: rest => do
    let (address, url, status) ← ctx.probe unit
    Program.log ⟨.debug, probeTarget, "probed dashboard unit",
      [("unit", .text unit), ("url", .text url), ("status", .number status)]⟩
    let more ← ctx.probeAll rest
    return (address, status) :: more

def probeUnits (ctx : Context) : Program CheckError Topology := do
  let units : List String ← consult (.units ctx.application)
  return .ofProbes (← ctx.probeAll units)

/-- The base address of the first of these units that is active. -/
def firstActive (ctx : Context) : List String → Program CheckError (Option String)
  | [] => return none
  | unit :: rest => do
    let (_, url, status) ← ctx.probe unit
    if status = Topology.active then
      Program.log ⟨.info, probeTarget, "found active dashboard unit",
        [("unit", .text unit), ("url", .text url)]⟩
      return some url
    else
      Program.log ⟨.debug, probeTarget, "dashboard unit is not active",
        [("unit", .text unit), ("status", .number status)]⟩
      ctx.firstActive rest

/-- The base address of the first active unit. -/
def findActive (ctx : Context) : Program CheckError (Option String) := do
  let units : List String ← consult (.units ctx.application)
  ctx.firstActive units

/-- The base address of the first active unit; a scenario fails if there is none. -/
def requireActive (ctx : Context) (scenario : String) : Program CheckError String := do
  match ← ctx.findActive with
  | some url => return url
  | none => throw (.assertion scenario s!"no unit of '{ctx.application}' answered 200")

def verifyTopology (ctx : Context) : Program CheckError Topology := do
  let topology ← ctx.probeUnits
  match topology.verify with
  | .ok () =>
    Program.log ⟨.info, probeTarget, "dashboard topology verified",
      [("topology", .text topology.text)]⟩
    return topology
  | .error complaint => throw (.assertion "dashboard_units" complaint)

end Context

end DashboardCheck
