import DashboardCheck.Http.Client
import DashboardCheck.Proofs.World

/-!
# What was done, done again

The record of what was done decides the world, together with the world before it: in a given
setting it can be replayed, event by event. So it makes sense to ask how a call on the record was
answered. A program fails fast if the first call without a good answer is the last thing that it
does, and ends it with an error that tells of that call. Such programs compose.
-/
namespace DashboardCheck

namespace Setting

/-- The world after one more event. Calls and temporary files change the disk. -/
def step (setting : Setting) (world : World) (event : Event) : World where
  trace := world.trace ++ [event]
  disk := match event with
    | .called call => (setting.orchestrator world call).2
    | .made path entry => (world.make path entry).disk
    | _ => world.disk

def replay (setting : Setting) (world : World) (events : Trace) : World :=
  events.foldl setting.step world

variable {setting : Setting} {world : World}

theorem step_trace (event : Event) :
    (setting.step world event).trace = world.trace ++ [event] := rfl

@[simp] theorem replay_nil : setting.replay world [] = world := rfl

@[simp] theorem replay_append (earlier later : Trace) :
    setting.replay world (earlier ++ later) =
      setting.replay (setting.replay world earlier) later := by
  simp [replay]

@[simp] theorem replay_trace (events : Trace) :
    (setting.replay world events).trace = world.trace ++ events := by
  induction events generalizing world with
  | nil => simp
  | cons event rest ih =>
    calc (setting.replay world (event :: rest)).trace
        = (setting.replay (setting.step world event) rest).trace := rfl
      _ = (setting.step world event).trace ++ rest := ih
      _ = world.trace ++ event :: rest := by simp [step_trace]

end Setting

namespace Program

variable {ε δ α β : Type} {blame : Call → OrchestratorError → ε}

/-- What a program does can be replayed, and a call that fails is the last of it. The program then
ends with the error that the call is to blame for. -/
def FailsFast (blame : Call → OrchestratorError → ε) (p : Program ε α) : Prop :=
  ∀ setting world, ∃ events, (p.start setting world).2 = setting.replay world events ∧
    ∀ earlier call later e, events = earlier ++ .called call :: later →
      (setting.orchestrator (setting.replay world earlier) call).1 = .error e →
        later = [] ∧ (p.start setting world).1 = .error (blame call e)

/-- A program that calls nobody fails fast. -/
theorem failsFast_of_uncalled {p : Program ε α}
    (h : ∀ setting world, ∃ events, (p.start setting world).2 = setting.replay world events ∧
      ∀ call, .called call ∉ events) : FailsFast blame p := by
  intro setting world
  obtain ⟨events, hfinish, hnone⟩ := h setting world
  refine ⟨events, hfinish, ?_⟩
  rintro earlier call later e rfl
  have hcall : Event.called call ∈ earlier ++ .called call :: later := by simp
  exact absurd hcall (hnone call)

/-- So does one whose only event is not a call. -/
theorem failsFast_of_event {p : Program ε α}
    (h : ∀ setting world, ∃ event, (p.start setting world).2 = setting.step world event ∧
      ∀ call, event ≠ .called call) : FailsFast blame p := by
  refine failsFast_of_uncalled fun setting world => ?_
  obtain ⟨event, hfinish, hnot⟩ := h setting world
  refine ⟨[event], hfinish, ?_⟩
  intro call hcall
  have heq : .called call = event := by simpa using hcall
  exact hnot call heq.symm

theorem failsFast_ofExcept (x : Except ε α) : FailsFast blame (ofExcept x) :=
  failsFast_of_uncalled fun _ _ => ⟨[], rfl, by simp⟩

theorem failsFast_pure (a : α) : FailsFast blame (pure a : Program ε α) :=
  failsFast_ofExcept (.ok a)

theorem failsFast_throw (e : ε) : FailsFast blame (throw e : Program ε α) :=
  failsFast_ofExcept (.error e)

theorem failsFast_note {event : Event} (h : ∀ call path entry, event ≠ .called call ∧
    event ≠ .made path entry) : FailsFast blame (note event : Program ε Unit) := by
  refine failsFast_of_event fun setting world => ⟨event, ?_, fun call => (h call "" .directory).1⟩
  cases event with
  | called call => exact absurd rfl (h call "" .directory).1
  | made path entry => exact absurd rfl (h .names path entry).2
  | _ => rfl

theorem failsFast_deliver (limit : Option Duration) (request : Http.Request) :
    FailsFast blame (deliver limit request : Program ε Delivery) := by
  refine failsFast_of_uncalled fun setting world => ?_
  rw [deliver_after]
  by_cases h : setting.network world limit request = .unconnected
  · exact ⟨[], by simp [h], by simp⟩
  · exact ⟨[.sent request], by simp [h]; rfl, by simp⟩

theorem failsFast_freshName : FailsFast blame (freshName : Program ε String) :=
  failsFast_of_event fun setting world => ⟨.named _, rfl, by simp⟩

theorem failsFast_makeTemp (entry : Entry) (f : FileError → ε) :
    FailsFast blame ((makeTemp entry).mapError f) := by
  refine failsFast_of_uncalled fun setting world => ?_
  rw [start_mapError, start_makeTemp]
  cases setting.tempFault world entry with
  | some e => exact ⟨[], rfl, by simp⟩
  | none => exact ⟨[.made _ entry], rfl, by simp⟩

theorem failsFast_readFile (path : String) (f : FileError → ε) :
    FailsFast blame ((readFile path).mapError f) :=
  failsFast_of_event fun _ _ => ⟨.read path, rfl, by simp⟩

/-- The call itself. -/
theorem failsFast_ask {call : Call} {f : OrchestratorError → ε} (h : ∀ e, blame call e = f e) :
    FailsFast blame ((ask call).mapError f) := by
  intro setting world
  refine ⟨[.called call], rfl, ?_⟩
  intro earlier call' later e hevents hfailed
  obtain ⟨rfl, hcall, rfl⟩ : earlier = [] ∧ call = call' ∧ later = [] := by
    cases earlier with
    | nil => simpa [eq_comm] using hevents
    | cons head tail => simp at hevents
  subst hcall
  rw [Setting.replay_nil] at hfailed
  refine ⟨rfl, ?_⟩
  rw [start_mapError, start_ask, hfailed, h]
  rfl

theorem FailsFast.mapError {p : Program ε α} (f : ε → δ) (hp : FailsFast blame p) :
    FailsFast (fun call e => f (blame call e)) (p.mapError f) := by
  intro setting world
  obtain ⟨events, hfinish, hfails⟩ := hp setting world
  refine ⟨events, hfinish, ?_⟩
  intro earlier call later e hevents hfailed
  obtain ⟨hlast, hresult⟩ := hfails earlier call later e hevents hfailed
  refine ⟨hlast, ?_⟩
  rw [start_mapError, hresult]
  rfl

/-- A program that goes on got good answers only, so a call that fails is one of the rest. -/
theorem FailsFast.bind {p : Program ε α} {f : α → Program ε β} (hp : FailsFast blame p)
    (hf : ∀ a, FailsFast blame (f a)) : FailsFast blame (p >>= f) := by
  intro setting world
  obtain ⟨events, hfinish, hfails⟩ := hp setting world
  rcases hstart : p.start setting world with ⟨result, after⟩
  rw [hstart] at hfinish hfails
  dsimp only at hfinish
  cases result with
  | error e =>
    rw [start_bind_error setting world hstart]
    refine ⟨events, hfinish, ?_⟩
    intro earlier call later e' hevents hfailed
    obtain ⟨hlast, hresult⟩ := hfails earlier call later e' hevents hfailed
    cases hresult
    exact ⟨hlast, rfl⟩
  | ok a =>
    obtain ⟨more, hmore, hrest⟩ := hf a setting after
    rw [start_bind_ok setting world hstart]
    refine ⟨events ++ more, by rw [hmore, hfinish, Setting.replay_append], ?_⟩
    intro earlier call later e hevents hfailed
    rcases List.append_eq_append_iff.mp hevents with ⟨between, rfl, hcut⟩ | ⟨between, rfl, hcut⟩
    · refine hrest between call later e hcut ?_
      rwa [hfinish, ← Setting.replay_append]
    · cases between with
      | nil =>
        refine hrest [] call later e hcut.symm ?_
        rw [hfinish]
        simpa using hfailed
      | cons head tail =>
        obtain ⟨rfl, rfl⟩ : .called call = head ∧ later = tail ++ more := by simpa using hcut
        have hresult := (hfails earlier call tail e rfl hfailed).2
        cases hresult

theorem FailsFast.after_log {lines : List LogLine} {q : Program ε β}
    (h : FailsFast blame q) : FailsFast blame (logAll lines >>= fun _ => q) := h

theorem FailsFast.ite {c : Prop} [Decidable c] {p q : Program ε α} (hp : FailsFast blame p)
    (hq : FailsFast blame q) : FailsFast blame (if c then p else q) := by
  by_cases h : c
  · rwa [if_pos h]
  · rwa [if_neg h]

end Program

namespace Http.Client

open Program (FailsFast)

variable {ε : Type} (client : Client)

/-- An exchange asks nothing of the orchestrator. -/
theorem exchange_failsFast {blame : Call → OrchestratorError → ε} (follow : Bool) :
    ∀ (left : Nat) (request : Request),
      FailsFast blame (client.exchange follow left request : Program ε _)
  | left, request => by
    rw [exchange.eq_def]
    refine (Program.failsFast_deliver client.limit request).bind fun delivery => ?_
    cases delivery with
    | unconnected => exact Program.failsFast_pure _
    | unanswered => exact Program.failsFast_pure _
    | answered response =>
      dsimp only
      cases request.next? follow response with
      | none => exact Program.failsFast_pure _
      | some next =>
        match left with
        | 0 => exact Program.failsFast_pure _
        | left + 1 => exact exchange_failsFast follow left next

theorem once_failsFast {blame : Call → OrchestratorError → ε} (order : Order) (url : String) :
    FailsFast blame (client.once order url : Program ε _) := by
  refine (Program.failsFast_note (by simp)).bind fun _ => ?_
  cases target url with
  | error e => exact Program.failsFast_pure _
  | ok found => exact client.exchange_failsFast order.follow maxRedirections _

/-- Nothing is asked of the orchestrator between attempts either. -/
theorem attempts_failsFast {blame : Call → OrchestratorError → CheckError} (order : Order)
    (url : String) (left attempt : Nat) :
    FailsFast blame (client.attempts order url left attempt) := by
  induction left generalizing attempt with
  | zero =>
    rw [attempts]
    refine .after_log ((client.once_failsFast order url).bind fun result => ?_)
    cases result with
    | ok arrival => exact (Program.failsFast_pure _).after_log
    | error e => exact (Program.failsFast_throw _).after_log
  | succ left ih =>
    rw [attempts]
    refine .after_log ((client.once_failsFast order url).bind fun result => ?_)
    cases result with
    | ok arrival => exact (Program.failsFast_pure _).after_log
    | error e =>
      refine FailsFast.ite (.after_log ?_) (Program.failsFast_throw _).after_log
      exact (Program.failsFast_note (by simp)).bind fun _ => ih (attempt + 1)

/-- Requests call nobody. -/
theorem send_failsFast {blame : Call → OrchestratorError → CheckError} (order : Order)
    (url : String) : FailsFast blame (client.send order url) :=
  client.attempts_failsFast order url _ 1

end Http.Client

end DashboardCheck
