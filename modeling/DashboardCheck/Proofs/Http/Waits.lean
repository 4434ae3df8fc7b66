import DashboardCheck.Proofs.Contract
import DashboardCheck.Proofs.Http.Attempts
import DashboardCheck.Proofs.Http.Backoff

/-!
# Where requests go, and how long they wait

Asking for an address sends requests to that address and to where answers lead from there, and to
nowhere else. Between the attempts there are waits, each no longer than the policy allows, and one
less than there may be attempts.
-/
namespace DashboardCheck

def Event.waiting : Event → Nat
  | .waited wait => wait.nanos
  | _ => 0

def Trace.waiting (t : Trace) : Nat :=
  t.foldr (fun event total => event.waiting + total) 0

@[simp] theorem Trace.waiting_cons (event : Event) (t : Trace) :
    Trace.waiting (event :: t) = event.waiting + t.waiting := rfl

@[simp] theorem Trace.waiting_append (t u : Trace) :
    Trace.waiting (t ++ u) = t.waiting + u.waiting := by
  induction t with
  | nil => simp [waiting]
  | cons event rest ih => rw [List.cons_append, waiting_cons, waiting_cons, ih, Nat.add_assoc]

@[simp] theorem Trace.waiting_nil : Trace.waiting [] = 0 := rfl

@[simp] theorem Trace.waiting_sent (sent : List Http.Request) :
    Trace.waiting (sent.map .sent) = 0 := by
  induction sent with
  | nil => rfl
  | cons request rest ih => simpa [waiting_cons, Event.waiting] using ih

namespace Http

namespace Client

/-- The addresses that a text leads to: its own, and those that answers lead to from there. -/
inductive Reaches (setting : Setting) (text : String) : Url → Prop where
  | start {url : Url} : target text = .ok url → Reaches setting text url
  | moved {world : World} {limit : Option Duration} {request : Request} {response : Response}
      {url : Url} : Reaches setting text request.url →
      setting.network world limit request = .answered response →
      request.url.redirected? response = some url → Reaches setting text url

/-- What is done for a text: attempts, requests to where it leads, and waits that are not too
long. -/
def Allows (client : Client) (text : String) : Program.Proper := fun setting event =>
  match event with
  | .tried _ => True
  | .sent request => Reaches setting text request.url
  | .waited wait => wait.nanos ≤ client.policy.maxWait.nanos
  | _ => False

def FailsAt (text : String) (e : CheckError) : Prop :=
  ∃ fault, e = .transport text fault

open Program (Abides Any)

variable {ε : Type} {setting : Setting} {text : String} (client : Client)

/-- What is reached by a redirect is reached from where the chain began. -/
theorem Reaches.next {world : World} {limit : Option Duration} {request next : Request}
    {response : Response} {follow : Bool} (h : Reaches setting text request.url)
    (hnet : setting.network world limit request = .answered response)
    (hnext : request.next? follow response = some next) : Reaches setting text next.url := by
  cases follow with
  | false => simp [Request.next?] at hnext
  | true =>
    rw [Request.next?, if_pos rfl, Request.follow?_eq] at hnext
    obtain ⟨url, hurl, rfl⟩ := Option.map_eq_some_iff.mp hnext
    have hmoved : (request.movedTo response url).url = url := by
      rw [Request.movedTo]
      split <;> rfl
    rw [hmoved]
    exact h.moved hnet hurl

/-- Following answers sends requests to where they lead only. -/
theorem exchange_sent (follow : Bool) : ∀ (left : Nat) (request : Request) (world : World),
    Reaches setting text request.url → ∃ (sent : List Request) (result : _),
      (client.exchange follow left request : Program ε _).start setting world =
        (.ok result, world.after (sent.map .sent)) ∧ ∀ r ∈ sent, Reaches setting text r.url
  | left, request, world, h => by
    have hone : ∀ r ∈ [request], Reaches setting text r.url := by simpa using h
    cases hnet : setting.network world client.limit request with
    | unconnected =>
      exact ⟨[], _, by simpa using exchange_unconnected client setting follow hnet, by simp⟩
    | unanswered =>
      exact ⟨[request], _, exchange_unanswered client setting follow hnet, hone⟩
    | answered response =>
      cases hnext : request.next? follow response with
      | none =>
        exact ⟨[request], _, exchange_answered client setting follow hnet hnext, hone⟩
      | some next =>
        match left with
        | 0 =>
          exact ⟨[request], _, exchange_redirected_too_often client setting follow hnet hnext, hone⟩
        | left + 1 =>
          obtain ⟨sent, result, hrun, hsent⟩ := exchange_sent follow left next
            (world.after [.sent request]) (h.next hnet hnext)
          refine ⟨request :: sent, result, ?_, by simpa using ⟨h, hsent⟩⟩
          rw [exchange_redirected client setting follow hnet hnext, hrun]
          simp

/-- An attempt is an attempt, and requests to where the text leads. -/
theorem once_abides (order : Order) (text : String) :
    Abides (client.Allows text) Any (FailsAt text) (client.once order text) := by
  intro setting world
  rw [once, Program.bind_note]
  cases htarget : target text with
  | error e => exact ⟨[.tried order.method], rfl, by simp [Allows], trivial⟩
  | ok url =>
    let request : Request := ⟨order.method, url, order.accept, order.content⟩
    have hstart : Reaches setting text request.url := .start htarget
    obtain ⟨sent, result, hrun, hsent⟩ := exchange_sent (ε := CheckError) client order.follow
      maxRedirections request (world.after [.tried order.method]) hstart
    dsimp only
    rw [hrun]
    refine ⟨.tried order.method :: sent.map .sent, by simp, ?_, trivial⟩
    rintro event (_ | ⟨_, hevent⟩)
    · trivial
    · obtain ⟨r, hr, rfl⟩ := List.mem_map.mp hevent
      exact hsent r hr

/-- So are all attempts, with waits between them. -/
theorem attempts_abides (order : Order) (text : String) (left attempt : Nat) :
    Abides (client.Allows text) Any (FailsAt text) (client.attempts order text left attempt) := by
  have honce := client.once_abides order text
  have hgiveUp : ∀ attempt e, Abides (client.Allows text) Any (FailsAt text)
      (giveUp order text attempt e) :=
    fun _ e => (Program.abides_throw ⟨e, rfl⟩).after_log
  induction left generalizing attempt with
  | zero =>
    rw [attempts]
    refine .after_log (honce.bind fun result _ => ?_)
    cases result with
    | ok arrival => exact .after_log (Program.abides_pure trivial)
    | error e => exact hgiveUp attempt e
  | succ left ih =>
    rw [attempts]
    refine .after_log (honce.bind fun result _ => ?_)
    cases result with
    | ok arrival => exact .after_log (Program.abides_pure trivial)
    | error e =>
      have hwait : Abides (client.Allows text) Any (FailsAt text)
          (Program.note (.waited (client.policy.backoff attempt))) :=
        Program.abides_note fun _ => client.policy.backoff_le attempt
      exact Abides.ite (fun _ => .after_log (hwait.bind fun _ _ => ih (attempt + 1)))
        fun _ => hgiveUp attempt e

theorem send_abides (order : Order) (text : String) :
    Abides (client.Allows text) Any (FailsAt text) (client.send order text) :=
  client.attempts_abides order text _ _

/-- The attempts that are left wait at most the longest wait each. -/
theorem attempts_waiting (setting : Setting) (order : Order) (text : String) (left attempt : Nat)
    (world : World) :
    ∃ events, ((client.attempts order text left attempt).start setting world).2 =
      world.after events ∧ Trace.waiting events ≤ left * client.policy.maxWait.nanos := by
  induction left generalizing attempt world with
  | zero =>
    obtain ⟨sent, hend⟩ := attempts_end attempt (.inl rfl)
    exact ⟨_, hend, by simp [Event.waiting]⟩
  | succ left ih =>
    by_cases hlost : client.AttemptLost setting order text world
    · obtain ⟨sent, hagain⟩ := attempts_again left attempt hlost
      obtain ⟨more, hmore, hwaiting⟩ := ih (attempt + 1) (world.after (.tried order.method ::
        (sent.map .sent ++ [.waited (client.policy.backoff attempt)])))
      rw [hagain, hmore, World.after_after]
      refine ⟨_, rfl, ?_⟩
      have hwait := client.policy.backoff_le attempt
      simp only [List.cons_append, Trace.waiting_cons, Trace.waiting_append, Trace.waiting_sent,
        Trace.waiting_nil, Event.waiting, Nat.add_mul]
      omega
    · obtain ⟨sent, hend⟩ := attempts_end attempt (.inr hlost)
      exact ⟨_, hend, by simp [Event.waiting]⟩

/-- All waits of a request together are as many of the longest as there may be further attempts. -/
theorem send_waiting (setting : Setting) (order : Order) (text : String) (world : World) :
    ∃ events, ((client.send order text).start setting world).2 = world.after events ∧
      Trace.waiting events ≤ (client.policy.maxAttempts - 1) * client.policy.maxWait.nanos :=
  client.attempts_waiting setting order text _ _ world

end Client

end Http

end DashboardCheck
