import DashboardCheck.Check.Probe
import DashboardCheck.Proofs.Course

/-!
# Looking for the active unit

The orchestrator is asked for units and addresses, and each unit is asked with a `GET`. Nothing else
is done to find the active unit, whatever units and network answer.
-/
namespace DashboardCheck

open Program (Does Within)

/-- Part of a `GET`: an attempt, a request, or the wait before another attempt. -/
def Event.IsGet : Event → Prop
  | .tried method => method = .get
  | .sent request => request.method = .get
  | .waited _ => True
  | _ => False

/-- Part of looking for the active unit. -/
def Event.IsProbe : Event → Prop
  | .called (.units _) => True
  | .called (.address _) => True
  | event => event.IsGet

theorem Event.IsGet.isProbe {event : Event} (h : event.IsGet) : event.IsProbe := by
  cases event <;> first | exact h | exact h.elim

/-- Redirections lead from a `GET` to nothing but a `GET`. -/
theorem Http.Client.within_get (client : Client) (url : String) (follow : Bool) :
    Within Event.IsGet (client.get url follow) := by
  refine client.within_send fun event htakes => ?_
  cases event with
  | tried method => exact htakes
  | sent request => exact (Order.Comes.same_or_get htakes).elim And.left id
  | waited wait => trivial
  | _ => exact htakes.elim

namespace Context

variable (ctx : Context) {setting : Setting} {world : World} {events : Trace}

theorem within_probe (unit : String) : Within Event.IsProbe (ctx.probe unit) := by
  refine (within_consult trivial).bind fun address => ?_
  have hget := (ctx.http.within_get (ctx.unitUrl address) false).weaken
    fun event hevent => hevent.isProbe
  exact hget.bind fun arrival => Program.within_pure _

theorem within_firstActive (units : List String) :
    Within Event.IsProbe (ctx.firstActive units) := by
  induction units with
  | nil => exact Program.within_pure none
  | cons unit rest ih =>
    exact (ctx.within_probe unit).bind fun found => Within.ite (Program.within_pure _) ih

theorem within_findActive : Within Event.IsProbe ctx.findActive :=
  (within_consult trivial).bind fun units => ctx.within_firstActive units

def endpoint (scenario : String) :
    Except CheckError (Option String) → Except CheckError String
  | .ok (some url) => .ok url
  | .ok none => .error (.assertion scenario s!"no unit of '{ctx.application}' answered 200")
  | .error e => .error e

theorem endpoint_eq_ok_iff {scenario url : String} {found : Except CheckError (Option String)} :
    ctx.endpoint scenario found = .ok url ↔ found = .ok (some url) := by
  cases found with
  | error e => simp [endpoint]
  | ok active => cases active <;> simp [endpoint]

/-- Requiring an active unit does nothing beyond looking for one. -/
theorem does_requireActive (scenario : String) {found : Except CheckError (Option String)}
    (h : Does setting world ctx.findActive found events) :
    Does setting world (ctx.requireActive scenario) (ctx.endpoint scenario found) events := by
  cases found with
  | error e => exact h.bind_error
  | ok active =>
    rw [← List.append_nil events]
    cases active with
    | none => exact h.bind_ok (Program.does_throw _)
    | some url => exact h.bind_ok (Program.does_pure url)

end Context

end DashboardCheck
