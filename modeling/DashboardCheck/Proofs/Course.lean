import DashboardCheck.Check.Certificate
import DashboardCheck.Proofs.Http.Reference
import DashboardCheck.Proofs.Replay

/-!
# The course of a program

In a given world a program has one course: what it comes to, and what it does on the way. The
courses of parts make up that of the whole. For parts that are not looked into, it is enough to know
what kind of things they do.
-/
namespace DashboardCheck

namespace Program

variable {ε δ α β : Type} {setting : Setting} {world : World} {p : Program ε α}
  {f : α → Program ε β} {earlier later events events' : Trace}

def Does (setting : Setting) (world : World) (p : Program ε α) (result : Except ε α)
    (events : Trace) : Prop :=
  p.start setting world = (result, setting.replay world events)

/-- There is only one course. -/
theorem Does.unique {result result' : Except ε α} (h : Does setting world p result events)
    (h' : Does setting world p result' events') : result = result' ∧ events = events' := by
  obtain ⟨hresult, hworld⟩ := Prod.mk.inj (h.symm.trans h')
  have htrace := congrArg World.trace hworld
  rw [Setting.replay_trace, Setting.replay_trace] at htrace
  exact ⟨hresult, List.append_cancel_left htrace⟩

theorem Does.trace_eq {result : Except ε α} (h : Does setting world p result events) :
    (p.start setting world).2.trace = world.trace ++ events := by
  rw [h, Setting.replay_trace]

theorem does_ofExcept (x : Except ε α) : Does setting world (ofExcept x) x [] := rfl

theorem does_pure (a : α) : Does setting world (pure a : Program ε α) (.ok a) [] := rfl

theorem does_throw (e : ε) : Does setting world (throw e : Program ε α) (.error e) [] := rfl

theorem does_logAll (lines : List LogLine) :
    Does setting world (logAll lines : Program ε Unit) (.ok ()) [] := rfl

theorem does_ask (call : Call) :
    Does setting world (ask call) (setting.orchestrator world call).1 [.called call] := rfl

/-- Where nothing stands against it, a new file or directory is the one event. -/
theorem does_makeTemp {entry : Entry} (h : setting.tempFault world entry = none) :
    Does setting world (makeTemp entry) (.ok (setting.temp world.trace.tempsMade))
      [.made (setting.temp world.trace.tempsMade) entry] := by
  rw [Does, start_makeTemp, h]
  rfl

theorem does_makeTemp_error {entry : Entry} {e : FileError}
    (h : setting.tempFault world entry = some e) :
    Does setting world (makeTemp entry) (.error e) [] := by
  rw [Does, start_makeTemp, h]
  rfl

theorem does_freshName :
    Does setting world (freshName : Program ε String) (.ok (setting.name world.trace.namesMade))
      [.named (setting.name world.trace.namesMade)] := rfl

theorem Does.mapError {result : Except ε α} (h : Does setting world p result events) (g : ε → δ) :
    Does setting world (p.mapError g) (result.mapError g) events := by
  rw [Does, start_mapError, h]

/-- Log lines are no part of a course. -/
theorem Does.after_log {lines : List LogLine} {q : Program ε β} {result : Except ε β}
    (h : Does setting world q result events) :
    Does setting world (logAll lines >>= fun _ => q) result events := h

/-- Two courses make one: the second starts in the world that the first one leaves. -/
theorem Does.bind_ok {a : α} {result : Except ε β} (hp : Does setting world p (.ok a) earlier)
    (hf : Does setting (setting.replay world earlier) (f a) result later) :
    Does setting world (p >>= f) result (earlier ++ later) := by
  rw [Does, start_bind_ok setting world hp, hf, Setting.replay_append]

theorem Does.bind_error {e : ε} (hp : Does setting world p (.error e) events) :
    Does setting world (p >>= f) (.error e) events :=
  start_bind_error setting world hp

/-- Whatever a program meets, it does only things of this kind. -/
def Within (kind : Event → Prop) (p : Program ε α) : Prop :=
  ∀ setting world, ∃ result events, Does setting world p result events ∧
    ∀ event ∈ events, kind event

variable {kind kind' : Event → Prop}

theorem within_ofExcept (x : Except ε α) : Within kind (ofExcept x) :=
  fun _ _ => ⟨x, [], does_ofExcept x, by simp⟩

theorem within_pure (a : α) : Within kind (pure a : Program ε α) := within_ofExcept (.ok a)

theorem within_logAll (lines : List LogLine) : Within kind (logAll lines : Program ε Unit) :=
  fun _ _ => ⟨_, [], does_logAll lines, by simp⟩

theorem within_ask {call : Call} (h : kind (.called call)) : Within kind (ask call) :=
  fun _ _ => ⟨_, _, does_ask call, by simpa using h⟩

theorem within_freshName (h : ∀ name, kind (.named name)) :
    Within kind (freshName : Program ε String) :=
  fun _ _ => ⟨_, _, does_freshName, by simpa using h _⟩

theorem within_makeTemp {entry : Entry} (h : ∀ path, kind (.made path entry)) :
    Within kind (makeTemp entry) := by
  intro setting world
  cases hfault : setting.tempFault world entry with
  | some e => exact ⟨_, _, does_makeTemp_error hfault, by simp⟩
  | none => exact ⟨_, _, does_makeTemp hfault, by simpa using h _⟩

theorem Within.mapError (hp : Within kind p) (g : ε → δ) : Within kind (p.mapError g) := by
  intro setting world
  obtain ⟨result, events, hdoes, hkind⟩ := hp setting world
  exact ⟨_, events, hdoes.mapError g, hkind⟩

theorem Within.bind (hp : Within kind p) (hf : ∀ a, Within kind (f a)) : Within kind (p >>= f) := by
  intro setting world
  obtain ⟨result, events, hdoes, hkind⟩ := hp setting world
  cases result with
  | error e => exact ⟨.error e, events, hdoes.bind_error, hkind⟩
  | ok a =>
    obtain ⟨result, more, hrest, hkind'⟩ := hf a setting (setting.replay world events)
    refine ⟨result, events ++ more, hdoes.bind_ok hrest, ?_⟩
    simpa [or_imp, forall_and] using ⟨hkind, hkind'⟩

theorem Within.after_log {lines : List LogLine} {q : Program ε β} (h : Within kind q) :
    Within kind (logAll lines >>= fun _ => q) := h

theorem Within.ite {c : Prop} [Decidable c] {q : Program ε α} (hp : Within kind p)
    (hq : Within kind q) : Within kind (if c then p else q) := by
  by_cases h : c
  · rwa [if_pos h]
  · rwa [if_neg h]

theorem Within.weaken (hp : Within kind p) (h : ∀ event, kind event → kind' event) :
    Within kind' p := by
  intro setting world
  obtain ⟨result, events, hdoes, hkind⟩ := hp setting world
  exact ⟨result, events, hdoes, fun event hevent => h event (hkind event hevent)⟩

/-- What is done in the one course is of the kind. -/
theorem Within.of_does (hp : Within kind p) {result : Except ε α}
    (h : Does setting world p result events) : ∀ event ∈ events, kind event := by
  obtain ⟨result', events', hdoes, hkind⟩ := hp setting world
  rw [(h.unique hdoes).2]
  exact hkind

end Program

open Program (Does Within)

variable {setting : Setting} {world : World}

theorem does_consult (call : Call) :
    Does setting world (consult call)
      ((setting.orchestrator world call).1.mapError .orchestrator) [.called call] :=
  (Program.does_ask call).mapError _

theorem within_consult {kind : Event → Prop} {call : Call} (h : kind (.called call)) :
    Within kind (consult call) :=
  (Program.within_ask h).mapError _

def Event.SparesDisk : Event → Prop
  | .called _ => False
  | .made _ _ => False
  | _ => True

theorem Setting.replay_eq_after {events : Trace} (h : ∀ event ∈ events, event.SparesDisk) :
    setting.replay world events = world.after events := by
  induction events generalizing world with
  | nil => simp
  | cons event rest ih =>
    have hstep : setting.step world event = world.after [event] := by
      have hspares := h event List.mem_cons_self
      cases event <;> first | exact hspares.elim | rfl
    calc setting.replay world (event :: rest)
        = setting.replay (setting.step world event) rest := rfl
      _ = (world.after [event]).after rest := by
        rw [hstep, ih fun event hevent => h event (List.mem_cons_of_mem _ hevent)]
      _ = world.after (event :: rest) := by simp

namespace Http.Client

variable {client : Client} {order : Order} {url : String}

/-- Requests that an order comes to: the one that is asked for, and others to where answers lead. -/
inductive Order.Comes (order : Order) (url : String) : Request → Prop where
  | asked {request : Request} : order.request? url = some request → Comes order url request
  | led {request next : Request} : Comes order url request → request.Leads order.follow next →
      Comes order url next

theorem Order.Sends.comes {sent : List Request} (h : order.Sends url sent) :
    ∀ request ∈ sent, order.Comes url request := by
  obtain ⟨hfirst, hchain⟩ := h
  have hstart : ∀ request, sent.head? = some request → order.Comes url request :=
    fun request hrequest => .asked (hfirst request hrequest)
  clear hfirst
  induction sent with
  | nil => simp
  | cons head rest ih =>
    have hhead : order.Comes url head := hstart head rfl
    obtain ⟨hnext, hrest⟩ := List.isChain_cons.mp hchain
    intro request hrequest
    rcases List.mem_cons.mp hrequest with rfl | hmem
    · exact hhead
    · exact ih hrest (fun next hfound => .led hhead (hnext next hfound)) request hmem

def Order.Takes (order : Order) (url : String) : Event → Prop
  | .tried method => method = order.method
  | .sent request => order.Comes url request
  | .waited _ => True
  | _ => False

/-- All attempts at an order only try, send and wait as the order does. -/
theorem takes_allAttempts {sent : Nat → List Request} (hsends : ∀ n, order.Sends url (sent (n + 1)))
    {k : Nat} (hk : 1 ≤ k) :
    ∀ event ∈ client.allAttempts order sent k, order.Takes url event := by
  have hattempt : ∀ n, ∀ event ∈ Event.tried order.method :: (sent (n + 1)).map .sent,
      order.Takes url event := by
    rintro n event (_ | ⟨_, hevent⟩)
    · rfl
    · obtain ⟨request, hrequest, rfl⟩ := List.mem_map.mp hevent
      exact (hsends n).comes request hrequest
  have hlost : ∀ n, ∀ event ∈ client.lostAttempts order sent n, order.Takes url event := by
    intro n
    induction n with
    | zero => simp [lostAttempts]
    | succ n ih =>
      intro event hevent
      rw [lostAttempts, List.mem_append, List.mem_append, List.mem_singleton] at hevent
      rcases hevent with hevent | hevent | rfl
      · exact ih event hevent
      · exact hattempt n event hevent
      · trivial
  obtain ⟨n, rfl⟩ : ∃ n, k = n + 1 := ⟨k - 1, by omega⟩
  intro event hevent
  rcases List.mem_append.mp hevent with hevent | hevent
  · exact hlost n event hevent
  · exact hattempt n event hevent

theorem Order.Takes.sparesDisk {event : Event} (h : order.Takes url event) : event.SparesDisk := by
  cases event <;> first | exact h.elim | trivial

/-- The course of sending what is asked: some attempts. -/
theorem does_send (client : Client) (order : Order) (url : String) (setting : Setting)
    (world : World) :
    ∃ (results : Nat → Except TransportError Arrival) (sent : Nat → List Request) (k : Nat),
      1 ≤ k ∧ (∀ n, order.Sends url (sent (n + 1))) ∧
      Does setting world (client.send order url) ((results k).mapError (.transport url))
        (client.allAttempts order sent k) := by
  obtain ⟨results, sent, hmeets⟩ := client.exists_meets order url setting world
  obtain ⟨k, ⟨⟨hk, -⟩, -⟩, hsend⟩ := hmeets.send
  refine ⟨results, sent, k, hk, hmeets.sends, ?_⟩
  rw [Does, hsend, Setting.replay_eq_after fun event hevent =>
    (takes_allAttempts hmeets.sends hk event hevent).sparesDisk]

theorem within_send {kind : Event → Prop} (client : Client)
    (h : ∀ event, order.Takes url event → kind event) : Within kind (client.send order url) := by
  intro setting world
  obtain ⟨results, sent, k, hk, hsends, hdoes⟩ := does_send client order url setting world
  exact ⟨_, _, hdoes, fun event hevent => h event (takes_allAttempts hsends hk event hevent)⟩

/-- Where redirections lead, the same is asked for with the same content, or it is a `GET`. -/
theorem Order.Comes.same_or_get {request : Request} (h : order.Comes url request) :
    request.method = order.method ∧ request.content = order.content ∨ request.method = .get := by
  induction h with
  | asked hrequest =>
    rw [Order.request?] at hrequest
    split at hrequest
    · cases hrequest
      exact .inl ⟨rfl, rfl⟩
    · cases hrequest
  | @led request next _ hleads ih =>
    obtain ⟨response, hnext⟩ := hleads
    cases hfollow : order.follow with
    | false => simp [Request.next?, hfollow] at hnext
    | true =>
      rw [Request.next?, hfollow, if_pos rfl, Request.follow?_eq] at hnext
      obtain ⟨target, -, rfl⟩ := Option.map_eq_some_iff.mp hnext
      rw [Request.movedTo]
      split
      · exact .inr rfl
      · exact ih

end Http.Client

end DashboardCheck
