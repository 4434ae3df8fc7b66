import DashboardCheck.World.Program

/-!
# Worlds after more events

Most programs only add to the record of what was done. The world after such a program is written
as the world before it with more events, which compose as the lists do.
-/
namespace DashboardCheck

instance instDecidableEqResult {ε α : Type} [DecidableEq ε] [DecidableEq α] :
    DecidableEq (Except ε α)
  | .ok a, .ok b => decidable_of_iff (a = b) (by simp)
  | .error e, .error f => decidable_of_iff (e = f) (by simp)
  | .ok _, .error _ => isFalse (by simp)
  | .error _, .ok _ => isFalse (by simp)

namespace World

/-- The world after more was done. The disk is as before. -/
def after (world : World) (events : Trace) : World := ⟨world.trace ++ events, world.disk⟩

variable {world : World}

@[simp] theorem after_trace (events : Trace) :
    (world.after events).trace = world.trace ++ events := rfl

@[simp] theorem after_disk (events : Trace) : (world.after events).disk = world.disk := rfl

@[simp] theorem after_nil : world.after [] = world := by
  simp [after]

@[simp] theorem after_after (earlier later : Trace) :
    (world.after earlier).after later = world.after (earlier ++ later) := by
  simp [after]

theorem after_inj {events events' : Trace} :
    world.after events = world.after events' ↔ events = events' := by
  simp [after]

end World

/-- An event that is neither a call of the orchestrator nor a name that was made up. -/
def Event.IsQuiet : Event → Prop
  | .called _ => False
  | .named _ => False
  | _ => True

namespace Trace

variable {trace : Trace}

@[simp] theorem calls_append_called (call : Call) :
    calls (trace ++ [.called call]) = trace.calls ++ [call] := by
  simp [calls]

@[simp] theorem calls_append_named (name : String) :
    calls (trace ++ [.named name]) = trace.calls := by
  simp [calls]

theorem calls_append_quiet {event : Event} (h : event.IsQuiet) :
    calls (trace ++ [event]) = trace.calls := by
  cases event <;> simp_all [calls, Event.IsQuiet]

@[simp] theorem namesMade_append_called (call : Call) :
    namesMade (trace ++ [.called call]) = trace.namesMade := by
  simp [namesMade]

@[simp] theorem namesMade_append_named (name : String) :
    namesMade (trace ++ [.named name]) = trace.namesMade + 1 := by
  simp [namesMade]

theorem namesMade_append_quiet {event : Event} (h : event.IsQuiet) :
    namesMade (trace ++ [event]) = trace.namesMade := by
  cases event <;> simp_all [namesMade, Event.IsQuiet]

end Trace

namespace Program

variable {ε α β : Type} (setting : Setting) (world : World)

theorem note_after (event : Event) :
    (note event : Program ε Unit).start setting world = (.ok (), world.after [event]) := rfl

/-- A request leaves no mark exactly if there is no connection. -/
theorem deliver_after (limit : Option Duration) (request : Http.Request) :
    (deliver limit request : Program ε Delivery).start setting world =
      (.ok (setting.network world limit request),
        world.after (if setting.network world limit request = .unconnected then []
          else [.sent request])) := by
  simp only [start, deliver]
  cases h : setting.network world limit request <;> simp [World.after]

theorem bind_note (event : Event) (f : Unit → Program ε β) :
    (note event >>= f).start setting world = (f ()).start setting (world.after [event]) :=
  start_bind_ok setting world (note_after setting world event)

section Value

variable {δ : Type} {setting world} {finish : World}

theorem start_of_mapError_ok {p : Program ε α} {f : ε → δ} {a : α}
    (h : (p.mapError f).start setting world = (.ok a, finish)) :
    p.start setting world = (.ok a, finish) := by
  rw [start_mapError] at h
  rcases hstart : p.start setting world with ⟨result, after⟩
  rw [hstart] at h
  cases result with
  | ok a' =>
    cases h
    rfl
  | error e => cases h

/-- A program that goes on to a value has come to one before. -/
theorem start_bind_eq_ok {p : Program ε α} {f : α → Program ε β} {b : β}
    (h : (p >>= f).start setting world = (.ok b, finish)) :
    ∃ a after, p.start setting world = (.ok a, after) ∧
      (f a).start setting after = (.ok b, finish) := by
  rcases hstart : p.start setting world with ⟨result, after⟩
  cases result with
  | ok a => exact ⟨a, after, rfl, by rwa [start_bind_ok setting world hstart] at h⟩
  | error e =>
    rw [start_bind_error setting world hstart] at h
    cases h

end Value

end Program

end DashboardCheck
