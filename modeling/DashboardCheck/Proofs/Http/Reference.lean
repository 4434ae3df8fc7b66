import DashboardCheck.Proofs.Counters
import DashboardCheck.Proofs.Http.Attempts
import Mathlib.Data.List.Chain
import Mathlib.Order.Bounds.Defs
import Mathlib.Tactic.Choose

/-!
# Which attempt is the last

Attempts are made one after the other, with a wait after each that is not the last. The last one is
the first that did not end without a connection, or the last that the policy allows, whichever comes
first, and what it came to is what the request came to. So the counters tell how many requests were
asked for: as many as were tried, less those that were tried again.
-/
namespace DashboardCheck

namespace Http

/-- A request goes where an answer to another leads. -/
def Request.Leads (follow : Bool) (request next : Request) : Prop :=
  ∃ response, request.next? follow response = some next

namespace Client

variable {ε : Type} (client : Client) (order : Order) (url : String) (setting : Setting)

/-- Requests that an attempt may send, in order: the one that was asked for, and then each to where
the answer to the one before leads. -/
structure Order.Sends (order : Order) (url : String) (sent : List Request) : Prop where
  first : ∀ request, sent.head? = some request → order.request? url = some request
  chain : sent.IsChain (Request.Leads order.follow)

/-- An exchange sends a chain of requests, each where an answer to the one before leads. -/
theorem exchange_chain (follow : Bool) : ∀ (left : Nat) (request : Request) (world : World),
    ∃ (sent : List Request) (result : Except TransportError Arrival),
      (client.exchange follow left request : Program ε _).start setting world =
        (.ok result, world.after (sent.map .sent)) ∧
      (∀ first, sent.head? = some first → first = request) ∧
      sent.IsChain (Request.Leads follow)
  | left, request, world => by
    cases hnet : setting.network world client.limit request with
    | unconnected =>
      exact ⟨[], _, by simpa using exchange_unconnected client setting follow hnet, by simp, .nil⟩
    | unanswered =>
      exact ⟨[request], _, exchange_unanswered client setting follow hnet, by simp, .singleton _⟩
    | answered response =>
      cases hnext : request.next? follow response with
      | none =>
        exact ⟨[request], _, exchange_answered client setting follow hnet hnext, by simp,
          .singleton _⟩
      | some next =>
        match left with
        | 0 =>
          exact ⟨[request], _, exchange_redirected_too_often client setting follow hnet hnext,
            by simp, .singleton _⟩
        | left + 1 =>
          obtain ⟨sent, result, hrun, hfirst, hchain⟩ :=
            exchange_chain follow left next (world.after [.sent request])
          refine ⟨request :: sent, result, ?_, by simp, List.isChain_cons.mpr ⟨?_, hchain⟩⟩
          · rw [exchange_redirected client setting follow hnet hnext, hrun]
            simp
          · intro second hsecond
            obtain rfl : second = next := hfirst second hsecond
            exact ⟨response, hnext⟩

/-- An attempt is recorded, and after it the requests that it sent. -/
theorem once_sends (world : World) :
    ∃ (sent : List Request) (result : Except TransportError Arrival),
      (client.once order url : Program ε _).start setting world =
        (.ok result, world.after (.tried order.method :: sent.map .sent)) ∧
      order.Sends url sent := by
  rw [once, Program.bind_note]
  cases htarget : target url with
  | error e => exact ⟨[], .error e, rfl, by simp, .nil⟩
  | ok found =>
    obtain ⟨sent, result, hrun, hfirst, hchain⟩ := exchange_chain (ε := ε) client setting
      order.follow maxRedirections ⟨order.method, found, order.accept, order.content⟩
      (order.begun world)
    refine ⟨sent, result, ?_, fun request hrequest => ?_, hchain⟩
    · dsimp only
      rw [← Order.begun, hrun]
      simp [Order.begun]
    · rw [hfirst request hrequest, Order.request?, htarget]

def lostAttempts (sent : Nat → List Request) : Nat → Trace
  | 0 => []
  | n + 1 => lostAttempts sent n ++
      (.tried order.method :: (sent (n + 1)).map .sent ++ [.waited (client.policy.backoff (n + 1))])

/-- The record of so many attempts, with a wait after each but the last. -/
def allAttempts (sent : Nat → List Request) (n : Nat) : Trace :=
  client.lostAttempts order sent (n - 1) ++ .tried order.method :: (sent n).map .sent

/-- What attempts come to, and the requests that they send, if there is always another one after a
wait. The first has number 1. -/
structure Meets (world : World) (results : Nat → Except TransportError Arrival)
    (sent : Nat → List Request) : Prop where
  attempt : ∀ n, let before := world.after (client.lostAttempts order sent n)
    (client.once order url : Program CheckError _).start setting before =
      (.ok (results (n + 1)), before.after (.tried order.method :: (sent (n + 1)).map .sent))
  sends : ∀ n, order.Sends url (sent (n + 1))

theorem exists_meets (world : World) :
    ∃ results sent, client.Meets order url setting world results sent := by
  choose sentIn resultIn hrun hsends using once_sends (ε := CheckError) client order url setting
  let place : Nat → World := Nat.rec world fun n before =>
    before.after (.tried order.method :: (sentIn before).map .sent ++
      [.waited (client.policy.backoff (n + 1))])
  let sent (n : Nat) : List Request := sentIn (place (n - 1))
  have hplace : ∀ n, place n = world.after (client.lostAttempts order sent n) := by
    intro n
    induction n with
    | zero => simp [place, lostAttempts]
    | succ n ih =>
      rw [lostAttempts, ← World.after_after, ← ih]
      rfl
  refine ⟨fun n => resultIn (place (n - 1)), sent, fun n => ?_, fun n => hsends _⟩
  rw [← hplace]
  exact hrun (place n)

variable {client order url setting} {world : World}
  {results : Nat → Except TransportError Arrival} {sent : Nat → List Request}

/-- An attempt that got a connection, or after which none is left, is the last. -/
theorem Meets.last (h : client.Meets order url setting world results sent) {left n : Nat}
    (hlast : left = 0 ∨ ¬ Unconnected (results (n + 1))) :
    (client.attempts order url left (n + 1)).start setting
        (world.after (client.lostAttempts order sent n)) =
      ((results (n + 1)).mapError (.transport url),
        world.after (client.allAttempts order sent (n + 1))) := by
  have hfinish : (world.after (client.lostAttempts order sent n)).after
      (.tried order.method :: (sent (n + 1)).map .sent) =
        world.after (client.allAttempts order sent (n + 1)) := by
    rw [World.after_after]
    rfl
  rw [Client.attempts.eq_def]
  dsimp only
  rw [Program.start_bind_log, Program.start_bind_ok _ _ (h.attempt n), hfinish]
  cases hresult : results (n + 1) with
  | ok arrival => rfl
  | error e =>
    cases left with
    | zero => rfl
    | succ left =>
      have hconnect : e.isConnect = false := by
        simpa [hresult, Unconnected] using hlast.resolve_left (Nat.succ_ne_zero left)
      dsimp only
      rw [if_neg (by simp [hconnect])]
      rfl

/-- An attempt without a connection that is not the last is followed by the next, after a wait. -/
theorem Meets.again (h : client.Meets order url setting world results sent) (left : Nat) {n : Nat}
    (hlost : Unconnected (results (n + 1))) :
    (client.attempts order url (left + 1) (n + 1)).start setting
        (world.after (client.lostAttempts order sent n)) =
      (client.attempts order url left (n + 2)).start setting
        (world.after (client.lostAttempts order sent (n + 1))) := by
  have hnext : ((world.after (client.lostAttempts order sent n)).after
      (.tried order.method :: (sent (n + 1)).map .sent)).after
        [.waited (client.policy.backoff (n + 1))] =
      world.after (client.lostAttempts order sent (n + 1)) := by
    simp [lostAttempts]
  rw [Client.attempts, Program.start_bind_log, Program.start_bind_ok _ _ (h.attempt n)]
  cases hresult : results (n + 1) with
  | ok arrival => simp [hresult, Unconnected] at hlost
  | error e =>
    have hconnect : e.isConnect = true := by simpa [hresult, Unconnected] using hlost
    dsimp only
    rw [if_pos hconnect, Program.start_bind_log, Program.bind_note, hnext]

/-- From an attempt on, attempts are made up to the first that got a connection, or until none is
left. -/
theorem Meets.attempts (h : client.Meets order url setting world results sent) (left n : Nat) :
    ∃ k, n < k ∧ k ≤ n + 1 + left ∧ (∀ i, n < i → i < k → Unconnected (results i)) ∧
      (k = n + 1 + left ∨ ¬ Unconnected (results k)) ∧
      (client.attempts order url left (n + 1)).start setting
          (world.after (client.lostAttempts order sent n)) =
        ((results k).mapError (.transport url),
          world.after (client.allAttempts order sent k)) := by
  -- on the attempts that are left; the next one is number `n + 1`
  induction left generalizing n with
  | zero =>
    exact ⟨n + 1, by omega, by omega, fun i hi hi' => by omega, .inl rfl, h.last (.inl rfl)⟩
  | succ left ih =>
    by_cases hlost : Unconnected (results (n + 1))
    · obtain ⟨k, hlow, hhigh, hbefore, hlast, hrun⟩ := ih (n + 1)
      refine ⟨k, by omega, by omega, ?_, hlast.imp (by omega) id, (h.again left hlost).trans hrun⟩
      intro i hi hik
      rcases Nat.lt_or_eq_of_le (Nat.succ_le_of_lt hi) with hlt | rfl
      · exact hbefore i hlt hik
      · exact hlost
    · exact ⟨n + 1, by omega, by omega, fun i hi hi' => by omega, .inr hlost, h.last (.inr hlost)⟩

/-- The numbers at which attempts may end: of an attempt that got a connection, or from as many on
as the policy allows. -/
def mayEnd (client : Client) (results : Nat → Except TransportError Arrival) : Set Nat :=
  {i | 1 ≤ i ∧ (¬ Unconnected (results i) ∨ max 1 client.policy.maxAttempts ≤ i)}

/-- The last attempt is the first of those that may be the last. -/
theorem Meets.send (h : client.Meets order url setting world results sent) :
    ∃ k, IsLeast (client.mayEnd results) k ∧
      (client.send order url).start setting world =
        ((results k).mapError (.transport url),
          world.after (client.allAttempts order sent k)) := by
  obtain ⟨k, hlow, hhigh, hbefore, hlast, hrun⟩ := h.attempts (client.policy.maxAttempts - 1) 0
  rw [lostAttempts, World.after_nil] at hrun
  refine ⟨k, ⟨⟨hlow, ?_⟩, ?_⟩, hrun⟩
  · rcases hlast with hlast | hlast
    · exact .inr (by omega)
    · exact .inl hlast
  · rintro i ⟨hi, hend⟩
    by_contra hik
    rcases hend with hend | hend
    · exact hend (hbefore i hi (by omega))
    · omega

section Counting

variable (client order sent)

theorem tries_sent (requests : List Request) (method : Method) :
    Trace.tries (requests.map .sent) method = 0 :=
  List.count_eq_zero.mpr (by simp)

theorem waits_sent (requests : List Request) : Trace.waits (requests.map .sent) = [] := by
  simp [Trace.waits]

/-- An attempt counts once, under its method, however many requests it sends. -/
theorem tries_attempt (requests : List Request) (method : Method) :
    Trace.tries (.tried order.method :: requests.map .sent) method =
      if method = order.method then 1 else 0 := by
  have hsent : (requests.map Event.sent).count (.tried method) = 0 := tries_sent requests method
  rw [Trace.tries, List.count_cons, hsent, Nat.zero_add]
  by_cases hmethod : method = order.method
  · simp [hmethod]
  · simp [hmethod, Ne.symm hmethod]

theorem tries_lostAttempts (method : Method) (n : Nat) :
    Trace.tries (client.lostAttempts order sent n) method =
      if method = order.method then n else 0 := by
  induction n with
  | zero => simp [lostAttempts, Trace.tries]
  | succ n ih =>
    have hwait : Trace.tries [.waited (client.policy.backoff (n + 1))] method = 0 := by
      simp [Trace.tries]
    rw [lostAttempts, Trace.tries_append, Trace.tries_append, tries_attempt, ih, hwait]
    split <;> rfl

theorem waits_lostAttempts (n : Nat) :
    Trace.waits (client.lostAttempts order sent n) =
      (List.range' 1 n).map client.policy.backoff := by
  induction n with
  | zero => rfl
  | succ n ih =>
    have hattempt : Trace.waits (.tried order.method :: (sent (n + 1)).map .sent) = [] :=
      waits_sent _
    have hwait : Trace.waits [.waited (client.policy.backoff (n + 1))] =
        [client.policy.backoff (n + 1)] := rfl
    rw [lostAttempts, Trace.waits_append, Trace.waits_append, ih, hattempt, hwait,
      List.range'_1_concat, List.map_append, Nat.add_comm 1 n]
    rfl

theorem tries_allAttempts (method : Method) {n : Nat} (hn : 1 ≤ n) :
    Trace.tries (client.allAttempts order sent n) method =
      if method = order.method then n else 0 := by
  rw [allAttempts, Trace.tries_append, tries_lostAttempts, tries_attempt]
  split <;> omega

theorem waits_allAttempts (n : Nat) :
    Trace.waits (client.allAttempts order sent n) =
      (List.range' 1 (n - 1)).map client.policy.backoff := by
  have hattempt : Trace.waits (.tried order.method :: (sent n).map .sent) = [] := waits_sent _
  rw [allAttempts, Trace.waits_append, waits_lostAttempts, hattempt, List.append_nil]

end Counting

/-- A setting in which the requests of a method get these deliveries, one for each attempt. -/
def dealing (method : Method) (deliveries : Nat → Delivery) : Setting where
  orchestrator world _ := (.error (.spawn "" ""), world.disk)
  network world _ _ := deliveries (world.trace.tries method)
  name _ := ""
  temp _ := ""
  clock _ := 0

/-- What an attempt comes to that ends with this delivery. -/
def resultOf (found : Url) : Delivery → Except TransportError Arrival
  | .answered response => .ok ⟨response, found⟩
  | .unconnected => .error ⟨.noConnection, some found⟩
  | .unanswered => .error ⟨.noAnswer, some found⟩

/-- No answer among these leads elsewhere. -/
def Order.Stays (order : Order) (found : Url) (deliveries : Nat → Delivery) : Prop :=
  ∀ i response, deliveries i = .answered response →
    Request.next? ⟨order.method, found, order.accept, order.content⟩ order.follow response = none

/-- Where no answer leads on, one delivery decides the exchange. -/
theorem exchange_stays {request : Request} {follow : Bool} {delivery : Delivery} (left : Nat)
    (hnet : setting.network world client.limit request = delivery)
    (hstay : ∀ response, delivery = .answered response → request.next? follow response = none) :
    ∃ sent : List Request, (client.exchange follow left request : Program ε _).start setting world =
      (.ok (resultOf request.url delivery), world.after (sent.map .sent)) := by
  cases delivery with
  | answered response =>
    exact ⟨[request], exchange_answered client setting follow hnet (hstay response rfl)⟩
  | unconnected =>
    exact ⟨[], by simpa [resultOf] using exchange_unconnected client setting follow hnet⟩
  | unanswered => exact ⟨[request], exchange_unanswered client setting follow hnet⟩

/-- There is a setting for every row of results. -/
theorem meets_dealing {found : Url} {deliveries : Nat → Delivery} (client : Client)
    (htarget : target url = .ok found) (hstays : order.Stays found deliveries)
    (hnone : world.trace.tries order.method = 0) :
    ∃ sent, client.Meets order url (dealing order.method deliveries) world
      (fun i => resultOf found (deliveries i)) sent := by
  obtain ⟨results, sent, hmeets⟩ :=
    client.exists_meets order url (dealing order.method deliveries) world
  have hresults : ∀ n, results (n + 1) = resultOf found (deliveries (n + 1)) := by
    intro n
    let before := world.after (client.lostAttempts order sent n)
    let request : Request := ⟨order.method, found, order.accept, order.content⟩
    have hnumber : (order.begun before).trace.tries order.method = n + 1 := by
      rw [Order.begun, World.after_trace, Trace.tries_append, World.after_trace,
        Trace.tries_append, hnone, tries_lostAttempts, if_pos rfl]
      simp [Trace.tries]
    have hnet : (dealing order.method deliveries).network (order.begun before) client.limit
        request = deliveries (n + 1) := congrArg deliveries hnumber
    obtain ⟨served, hrun⟩ := exchange_stays (ε := CheckError) maxRedirections hnet
      (hstays (n + 1))
    have honce := hmeets.attempt n
    dsimp only at honce
    rw [once, Program.bind_note, htarget] at honce
    have hsame := (congrArg Prod.fst honce).symm.trans (congrArg Prod.fst hrun)
    exact Except.ok.inj hsame
  refine ⟨sent, fun n => ?_, hmeets.sends⟩
  have hattempt := hmeets.attempt n
  rwa [hresults n] at hattempt

end Client

/-- A request as it is asked for. -/
inductive Errand where
  | get (url : String) (follow : Bool)
  | post (url : String) (body : Json.Value) (accept mediaType : String)

namespace Errand

def order : Errand → Client.Order
  | get _ follow => ⟨.get, follow, Client.anything, none⟩
  | post _ body accept mediaType => ⟨.post, true, accept, some ⟨mediaType, body.compact⟩⟩

def url : Errand → String
  | get url _ => url
  | post url .. => url

def run (client : Client) : Errand → Program CheckError Arrival
  | get url follow => client.get url follow
  | post url body accept mediaType => client.postJson url body accept mediaType

theorem run_eq (client : Client) (errand : Errand) :
    errand.run client = client.send errand.order errand.url := by
  cases errand <;> rfl

def runAll : List (Client × Errand) → Program CheckError (List (Except CheckError Arrival))
  | [] => return []
  | (client, errand) :: rest => do
    let result ← (errand.run client).attempt
    let more ← runAll rest
    return result :: more

end Errand

namespace Client

variable {client : Client} {order : Order} {url : String} {setting : Setting} {world : World}
  {results : Nat → Except TransportError Arrival} {sent : Nat → List Request}

/-- On the counters there are as many requests more as attempts were made, and one less that were
tried again. -/
theorem requestReading_allAttempts (client : Client) (order : Order) (sent : Nat → List Request)
    (earlier : Trace) (method : Method) {k : Nat} (hk : 1 ≤ k) :
    Trace.requestReading (earlier ++ client.allAttempts order sent k) method =
      earlier.requestReading method + if method = order.method then k else 0 := by
  rw [Trace.requestReading_eq, Trace.requestReading_eq, Trace.tries_append,
    tries_allAttempts _ _ _ _ hk]

/-- The counter of retries goes up once for each attempt but the first. -/
theorem retryReading_allAttempts (client : Client) (order : Order) (sent : Nat → List Request)
    (earlier : Trace) (k : Nat) :
    Trace.retryReading (earlier ++ client.allAttempts order sent k) =
      earlier.retryReading + (k - 1) := by
  rw [Trace.retryReading_eq, Trace.retryReading_eq, Trace.retries_eq_length_waits,
    Trace.retries_eq_length_waits, Trace.waits_append, List.length_append, waits_allAttempts,
    List.length_map, List.length_range']

/-- A request counts once, however often it was tried. -/
theorem surplus_allAttempts (client : Client) (order : Order) (sent : Nat → List Request)
    (earlier : Trace) {k : Nat} (hk : 1 ≤ k) :
    Trace.surplus (earlier ++ client.allAttempts order sent k) = earlier.surplus + 1 := by
  rw [Trace.surplus, Trace.surplus, requestReading_allAttempts _ _ _ _ _ hk,
    requestReading_allAttempts _ _ _ _ _ hk, retryReading_allAttempts]
  cases order.method <;> simp <;> omega

end Client

/-- Many errands bring the two counters apart by as many as they are. -/
theorem Errand.start_runAll (errands : List (Client × Errand)) (setting : Setting) (world : World) :
    ∃ found finish, (runAll errands).start setting world = (.ok found, finish) ∧
      found.length = errands.length ∧
      finish.trace.surplus = world.trace.surplus + errands.length := by
  induction errands generalizing world with
  | nil => exact ⟨[], world, rfl, rfl, by simp⟩
  | cons head rest ih =>
    obtain ⟨client, errand⟩ := head
    obtain ⟨results, sent, hmeets⟩ :=
      client.exists_meets errand.order errand.url setting world
    obtain ⟨k, ⟨⟨hk, -⟩, -⟩, hsend⟩ := hmeets.send
    obtain ⟨found, finish, hrun, hlength, hsurplus⟩ :=
      ih (world.after (client.allAttempts errand.order sent k))
    have hattempt : ((errand.run client).attempt : Program CheckError _).start setting world =
        (.ok ((results k).mapError (.transport errand.url)),
          world.after (client.allAttempts errand.order sent k)) := by
      rw [Program.start_attempt, errand.run_eq, hsend]
    refine ⟨(results k).mapError (.transport errand.url) :: found, finish, ?_, ?_, ?_⟩
    · rw [runAll, Program.start_bind_ok _ _ hattempt, Program.start_bind_ok _ _ hrun]
      rfl
    · rw [List.length_cons, List.length_cons, hlength]
    · rw [hsurplus, World.after_trace, Client.surplus_allAttempts _ _ _ _ hk, List.length_cons]
      omega

namespace Client

/-- A request is tried up to the first attempt that got a connection, or as often as the policy
allows, and comes to what that attempt comes to. Between the attempts there are the waits of the
policy, and the counters tell of both. This holds for all results in a row, and any results may come
in a row. So the counters of requests, less the counter of further attempts, tell how many requests
were asked for. -/
theorem send_as_reference :
    (∀ (client : Client) (order : Order) (url : String) (setting : Setting) (world : World),
      (∃ results sent, client.Meets order url setting world results sent) ∧
      ∀ results sent, client.Meets order url setting world results sent →
        ∃ k, IsLeast (client.mayEnd results) k ∧
          (client.send order url).start setting world =
            ((results k).mapError (.transport url),
              world.after (client.allAttempts order sent k)) ∧
          Trace.tries (client.allAttempts order sent k) order.method = k ∧
          Trace.waits (client.allAttempts order sent k) =
            (List.range' 1 (k - 1)).map client.policy.backoff ∧
          (∀ method, Trace.requestReading (world.trace ++ client.allAttempts order sent k) method =
            world.trace.requestReading method + if method = order.method then k else 0) ∧
          Trace.retryReading (world.trace ++ client.allAttempts order sent k) =
            world.trace.retryReading + (k - 1)) ∧
    (∀ (client : Client) (order : Order) (url : String) (found : Url) (deliveries : Nat → Delivery)
        (world : World), target url = .ok found → order.Stays found deliveries →
        world.trace.tries order.method = 0 →
      ∃ sent, client.Meets order url (dealing order.method deliveries) world
        (fun i => resultOf found (deliveries i)) sent) ∧
    ∀ (errands : List (Client × Errand)) (setting : Setting) (world : World),
      ∃ found finish, (Errand.runAll errands).start setting world = (.ok found, finish) ∧
        found.length = errands.length ∧
        finish.trace.surplus = world.trace.surplus + errands.length := by
  refine ⟨fun client order url setting world => ⟨client.exists_meets order url setting world, ?_⟩,
    fun client order url found deliveries world htarget hstays hnone =>
      meets_dealing client htarget hstays hnone,
    Errand.start_runAll⟩
  intro results sent hmeets
  obtain ⟨k, hleast, hsend⟩ := hmeets.send
  -- there is at least one attempt, which the counters rely on
  have hk : 1 ≤ k := hleast.1.1
  refine ⟨k, hleast, hsend, ?_, waits_allAttempts client order sent k, fun method => ?_, ?_⟩
  · rw [tries_allAttempts client order sent order.method hk, if_pos rfl]
  · exact requestReading_allAttempts client order sent world.trace method hk
  · exact retryReading_allAttempts client order sent world.trace k

/-- No connection twice, and then always an answer that tells of trouble. -/
def lateAnswer (i : Nat) : Delivery :=
  if i < 3 then .unconnected else .answered ⟨500, none, ""⟩

def ownAddress : Url :=
  ⟨"http".toList, .none, some "[::1]".toList, none, .segments [[]], none, none⟩

/-- A client that would make five attempts, with waits. -/
def patient : Client := ⟨none, none, ⟨5, .ofSecs 1, .ofSecs 5, .ofSecs 10⟩⟩

/-- The third attempt gets an answer, so it is the last, and its answer is what the request comes
to, though it tells of trouble. -/
theorem send_as_reference_late :
    target "http://[::1]/" = .ok ownAddress ∧
      ∃ sent, (patient.get "http://[::1]/" false).start (dealing .get lateAnswer) ⟨[], ⟨[], []⟩⟩ =
        (.ok ⟨⟨500, none, ""⟩, ownAddress⟩, (World.mk [] ⟨[], []⟩).after
          (patient.allAttempts ⟨.get, false, anything, none⟩ sent 3)) := by
  have htarget : target "http://[::1]/" = .ok ownAddress := by decide +kernel
  have hstays : Order.Stays ⟨.get, false, anything, none⟩ ownAddress lateAnswer :=
    fun _ _ _ => rfl
  obtain ⟨sent, hmeets⟩ := send_as_reference.2.1 patient _ _ _ _ ⟨[], ⟨[], []⟩⟩ htarget hstays rfl
  obtain ⟨k, ⟨⟨hk, hend⟩, hleast⟩, hsend, -⟩ :=
    (send_as_reference.1 patient _ _ _ ⟨[], ⟨[], []⟩⟩).2 _ _ hmeets
  have hlost : ∀ i < 3, Unconnected (resultOf ownAddress (lateAnswer i)) := by
    intro i hi
    rw [lateAnswer, if_pos hi]
    rfl
  have hthree : k = 3 := by
    have hle : k ≤ 3 := hleast ⟨by decide, .inl (by simp [lateAnswer, resultOf, Unconnected])⟩
    rcases Nat.lt_or_eq_of_le hle with hlt | rfl
    · have hfive : max 1 patient.policy.maxAttempts = 5 := rfl
      rcases hend with hend | hend
      · exact absurd (hlost k hlt) hend
      · omega
    · rfl
  subst hthree
  exact ⟨htarget, sent, hsend⟩

end Client

end Http

end DashboardCheck
