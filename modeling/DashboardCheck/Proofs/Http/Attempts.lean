import DashboardCheck.Http.Client
import DashboardCheck.Proofs.World

/-!
# Requests that are tried again

An attempt sends a request and follows where the answers lead. The next attempt is made exactly if
the chain of answers ended at an address without a connection, wherever in the chain that was. So a
request that a server has answered is sent again if it was redirected to such an address.
-/
namespace DashboardCheck.Http

/-- The address that a response leads to from here, if it leads anywhere. -/
def Url.redirected? (url : Url) (response : Response) : Option Url := do
  if !(statusesToGet ++ statusesToRepeat).contains response.status then none
  let target ← url.join? (trimHeader (← response.location))
  if !target.isHttp || !target.hasHost then none
  return target

/-- A response that leads elsewhere has a request sent there with `GET` or repeats it. -/
theorem Url.repeats_of_redirected {url target : Url} {response : Response}
    (h : url.redirected? response = some target)
    (hget : ¬ statusesToGet.contains response.status) :
    response.status = 307 ∨ response.status = 308 := by
  rw [Url.redirected?] at h
  cases hleads : (statusesToGet ++ statusesToRepeat).contains response.status with
  | false =>
    rw [hleads] at h
    cases h
  | true =>
    have hmem : response.status ∈ statusesToGet ++ statusesToRepeat :=
      List.contains_iff_mem.mp hleads
    rcases List.mem_append.mp hmem with hmem | hmem
    · exact absurd (List.contains_iff_mem.mpr hmem) hget
    · simpa [statusesToRepeat] using hmem

def Request.movedTo (request : Request) (response : Response) (target : Url) : Request :=
  if statusesToGet.contains response.status then
    { request with method := .get, url := target, content := none }
  else { request with url := target }

theorem Request.follow?_eq (request : Request) (response : Response) :
    request.follow? response =
      (request.url.redirected? response).map (request.movedTo response) := by
  rw [follow?, Url.redirected?]
  cases (statusesToGet ++ statusesToRepeat).contains response.status with
  | false => rfl
  | true =>
    cases response.location with
    | none => rfl
    | some location =>
      simp only [Option.bind_eq_bind, Option.bind_some, Bool.not_true, Bool.false_eq_true, if_false]
      cases request.url.join? (trimHeader location) with
      | none => rfl
      | some target =>
        simp only [Option.bind_some]
        by_cases hhttp : (!target.isHttp || !target.hasHost) = true
        · rw [if_pos hhttp, if_pos hhttp]
          rfl
        · rw [if_neg hhttp, if_neg hhttp, Option.pure_def, Option.pure_def, Option.map_some,
            movedTo]
          split <;> rfl

namespace Client

variable {ε : Type} (client : Client) (setting : Setting) (follow : Bool)

section Exchange

variable {left : Nat} {request next : Request} {response : Response} {world : World}

/-- Without a connection nothing is sent. -/
theorem exchange_unconnected
    (h : setting.network world client.limit request = .unconnected) :
    (client.exchange follow left request : Program ε _).start setting world =
      (.ok (.error ⟨.noConnection, some request.url⟩), world) := by
  rw [exchange, Program.start_bind_ok _ _ (Program.deliver_after _ _ _ _), h]
  simp

/-- A request without an answer was sent, and ends the exchange. -/
theorem exchange_unanswered
    (h : setting.network world client.limit request = .unanswered) :
    (client.exchange follow left request : Program ε _).start setting world =
      (.ok (.error ⟨.noAnswer, some request.url⟩), world.after [.sent request]) := by
  rw [exchange, Program.start_bind_ok _ _ (Program.deliver_after _ _ _ _), h]
  simp

/-- An answer that leads nowhere ends the exchange. -/
theorem exchange_answered
    (h : setting.network world client.limit request = .answered response)
    (hstay : request.next? follow response = none) :
    (client.exchange follow left request : Program ε _).start setting world =
      (.ok (.ok ⟨response, request.url⟩), world.after [.sent request]) := by
  rw [exchange, Program.start_bind_ok _ _ (Program.deliver_after _ _ _ _), h]
  simp [hstay]

/-- One redirect too many ends the exchange behind the request that met it. -/
theorem exchange_redirected_too_often
    (h : setting.network world client.limit request = .answered response)
    (hnext : request.next? follow response = some next) :
    (client.exchange follow 0 request : Program ε _).start setting world =
      (.ok (.error ⟨.redirectedTooOften, some next.url⟩), world.after [.sent request]) := by
  rw [exchange, Program.start_bind_ok _ _ (Program.deliver_after _ _ _ _), h]
  simp [hnext]

/-- An answer that leads on is followed, with one redirect less to go. -/
theorem exchange_redirected
    (h : setting.network world client.limit request = .answered response)
    (hnext : request.next? follow response = some next) :
    (client.exchange follow (left + 1) request : Program ε _).start setting world =
      (client.exchange follow left next : Program ε _).start setting
        (world.after [.sent request]) := by
  rw [exchange, Program.start_bind_ok _ _ (Program.deliver_after _ _ _ _), h]
  simp [hnext]

end Exchange

/-- From a request on, the answers lead to an address without a connection before too many
redirections were followed. Only the network has a say in it. -/
inductive LosesConnection : Nat → Request → World → Prop where
  | here {left request world} :
      setting.network world client.limit request = .unconnected →
      LosesConnection left request world
  | beyond {left request response next world} :
      setting.network world client.limit request = .answered response →
      request.next? follow response = some next →
      LosesConnection left next (world.after [.sent request]) →
      LosesConnection (left + 1) request world

section Loses

variable {client setting follow} {left : Nat} {request next : Request} {response : Response}
  {world : World}

theorem not_losesConnection_unanswered
    (h : setting.network world client.limit request = .unanswered) :
    ¬ client.LosesConnection setting follow left request world := by
  intro hlost
  cases hlost with
  | here hnone => simp [h] at hnone
  | beyond hsome _ _ => simp [h] at hsome

/-- An exchange that ends with an answer lost no connection. -/
theorem not_losesConnection_answered
    (h : setting.network world client.limit request = .answered response)
    (hend : request.next? follow response = none ∨ left = 0) :
    ¬ client.LosesConnection setting follow left request world := by
  intro hlost
  cases hlost with
  | here hnone => simp [h] at hnone
  | beyond hsome hnext _ => simp_all

/-- Behind a redirect the connection is lost where the next request loses it. -/
theorem losesConnection_redirected
    (h : setting.network world client.limit request = .answered response)
    (hnext : request.next? follow response = some next) :
    client.LosesConnection setting follow (left + 1) request world ↔
      client.LosesConnection setting follow left next (world.after [.sent request]) := by
  constructor
  · intro hlost
    cases hlost with
    | here hnone => simp [h] at hnone
    | beyond hsome hn hrest => simp_all
  · exact .beyond h hnext

end Loses

def Unconnected : Except TransportError Arrival → Prop
  | .ok _ => False
  | .error e => e.isConnect = true

/-- Following answers only adds requests to the record, and it ends without a connection exactly if
the network lets it. -/
theorem start_exchange : ∀ (left : Nat) (request : Request) (world : World),
    ∃ (sent : List Request) (result : Except TransportError Arrival),
      (client.exchange follow left request : Program ε _).start setting world =
        (.ok result, world.after (sent.map .sent)) ∧
      (Unconnected result ↔ client.LosesConnection setting follow left request world)
  | left, request, world => by
    cases hnet : setting.network world client.limit request with
    | unconnected =>
      refine ⟨[], _, by simpa using exchange_unconnected client setting follow hnet, ?_⟩
      exact iff_of_true rfl (.here hnet)
    | unanswered =>
      refine ⟨[request], _, exchange_unanswered client setting follow hnet, ?_⟩
      exact iff_of_false (by simp [Unconnected, TransportError.isConnect])
        (not_losesConnection_unanswered hnet)
    | answered response =>
      cases hnext : request.next? follow response with
      | none =>
        refine ⟨[request], _, exchange_answered client setting follow hnet hnext, ?_⟩
        exact iff_of_false id (not_losesConnection_answered hnet (.inl hnext))
      | some next =>
        match left with
        | 0 =>
          refine ⟨[request], _, exchange_redirected_too_often client setting follow hnet hnext, ?_⟩
          exact iff_of_false (by simp [Unconnected, TransportError.isConnect])
            (not_losesConnection_answered hnet (.inr rfl))
        | left + 1 =>
          obtain ⟨sent, result, hrun, hlost⟩ :=
            start_exchange left next (world.after [.sent request])
          refine ⟨request :: sent, result, ?_,
            hlost.trans (losesConnection_redirected hnet hnext).symm⟩
          rw [exchange_redirected client setting follow hnet hnext, hrun]
          simp

variable (order : Order) (url : String)

theorem target_fault {url : String} {e : TransportError} (h : target url = .error e) :
    e.fault = .unusable := by
  rw [target] at h
  split at h
  · cases h
    rfl
  · dsimp only at h
    split at h
    · cases h
    · cases h
      rfl

/-- The first request of each attempt, if the address is one. -/
def Order.request? : Option Request :=
  match target url with
  | .ok target => some ⟨order.method, target, order.accept, order.content⟩
  | .error _ => none

/-- The world in which an attempt sends its first request. -/
def Order.begun (world : World) : World := world.after [.tried order.method]

/-- An attempt that is made in this world ends without a connection. -/
def AttemptLost (world : World) : Prop :=
  ∃ request, order.request? url = some request ∧
    client.LosesConnection setting order.follow maxRedirections request (order.begun world)

/-- An attempt is recorded with its requests, and it ends without a connection exactly if the
network lets it. -/
theorem start_once (world : World) :
    ∃ (sent : List Request) (result : Except TransportError Arrival),
      (client.once order url : Program ε _).start setting world =
        (.ok result, world.after (.tried order.method :: sent.map .sent)) ∧
      (Unconnected result ↔ client.AttemptLost setting order url world) := by
  rw [once, Program.bind_note]
  cases htarget : target url with
  | error e =>
    refine ⟨[], _, rfl, ?_⟩
    refine iff_of_false ?_ ?_
    · simp [Unconnected, TransportError.isConnect, target_fault htarget]
    · rintro ⟨request, hrequest, _⟩
      simp [Order.request?, htarget] at hrequest
  | ok found =>
    have hrequest : order.request? url =
        some ⟨order.method, found, order.accept, order.content⟩ := by
      simp [Order.request?, htarget]
    obtain ⟨sent, result, hrun, hlost⟩ := start_exchange (ε := ε) client setting order.follow
      maxRedirections ⟨order.method, found, order.accept, order.content⟩ (order.begun world)
    refine ⟨sent, result, ?_, hlost.trans ?_⟩
    · dsimp only
      rw [← Order.begun, hrun]
      simp [Order.begun]
    · simp [AttemptLost, hrequest]

section Attempts

variable {client setting order url} {world : World}

/-- Without another attempt to make, or with an attempt that got a connection, that is all. -/
theorem attempts_end {left : Nat} (attempt : Nat)
    (h : left = 0 ∨ ¬ client.AttemptLost setting order url world) :
    ∃ sent : List Request,
      ((client.attempts order url left attempt).start setting world).2 =
        world.after (.tried order.method :: sent.map .sent) := by
  obtain ⟨sent, result, hrun, hlost⟩ := start_once (ε := CheckError) client setting order url world
  refine ⟨sent, ?_⟩
  rw [attempts, Program.start_bind_log, Program.start_bind_ok _ _ hrun]
  cases result with
  | ok arrival => rfl
  | error e =>
    match left with
    | 0 => rfl
    | left + 1 =>
      have hconnect : e.isConnect = false := by
        have hnot := h.resolve_left (by simp)
        simpa [← hlost, Unconnected] using hnot
      simp [hconnect]

/-- After an attempt without a connection the next one is made, unless it was the last. -/
theorem attempts_again (left attempt : Nat)
    (h : client.AttemptLost setting order url world) :
    ∃ sent : List Request,
      (client.attempts order url (left + 1) attempt).start setting world =
        (client.attempts order url left (attempt + 1)).start setting
          (world.after (.tried order.method ::
            (sent.map .sent ++ [.waited (client.policy.backoff attempt)]))) := by
  obtain ⟨sent, result, hrun, hlost⟩ := start_once (ε := CheckError) client setting order url world
  refine ⟨sent, ?_⟩
  rw [attempts, Program.start_bind_log, Program.start_bind_ok _ _ hrun]
  rw [← hlost] at h
  cases result with
  | ok arrival => exact h.elim
  | error e =>
    have hconnect : e.isConnect = true := h
    dsimp only
    rw [if_pos hconnect, Program.start_bind_log, Program.bind_note]
    simp

variable (client setting order url) in
/-- There is always a first attempt. -/
theorem attempts_begin (left attempt : Nat) (world : World) :
    ∃ more : Trace, ((client.attempts order url left attempt).start setting world).2 =
      world.after (.tried order.method :: more) := by
  induction left generalizing attempt world with
  | zero =>
    obtain ⟨sent, hend⟩ := attempts_end attempt (.inl rfl)
    exact ⟨_, hend⟩
  | succ left ih =>
    by_cases hlost : client.AttemptLost setting order url world
    · obtain ⟨sent, hagain⟩ := attempts_again left attempt hlost
      obtain ⟨more, hmore⟩ := ih (attempt + 1) (world.after (.tried order.method ::
        (sent.map .sent ++ [.waited (client.policy.backoff attempt)])))
      rw [hagain, hmore, World.after_after]
      exact ⟨_, rfl⟩
    · obtain ⟨sent, hend⟩ := attempts_end attempt (.inr hlost)
      exact ⟨_, hend⟩

/-- A list that begins with a mark, cut at one of its marks: at the first, or behind all that
stands before the second. -/
theorem cut_at_mark {α : Type} {mark : α} {events more earlier rest : List α}
    (hnot : mark ∉ events) (h : mark :: (events ++ more) = earlier ++ mark :: rest) :
    (earlier = [] ∧ rest = events ++ more) ∨
      ∃ later, earlier = mark :: (events ++ later) ∧ more = later ++ mark :: rest := by
  cases earlier with
  | nil => exact .inl ⟨rfl, by simpa using h.symm⟩
  | cons head tail =>
    obtain ⟨rfl, htail⟩ : mark = head ∧ events ++ more = tail ++ mark :: rest := by simpa using h
    rcases List.append_eq_append_iff.mp htail with ⟨later, rfl, rfl⟩ | ⟨later, rfl, hlater⟩
    · exact .inr ⟨later, rfl, rfl⟩
    · cases later with
      | nil => exact .inr ⟨[], by simp, by simpa using hlater.symm⟩
      | cons b more' =>
        have hb : mark = b := by simpa using congrArg List.head? hlater
        exact absurd (by simp [hb]) hnot

/-- The record of one attempt cannot be cut elsewhere than at its start. -/
theorem cut_of_one {method : Method} {sent : List Request} {earlier rest : Trace}
    (h : .tried method :: sent.map .sent = earlier ++ .tried method :: rest) :
    earlier = [] ∧ .tried method ∉ rest := by
  have hnot : .tried method ∉ sent.map Event.sent := by simp
  rw [← List.append_nil (sent.map Event.sent)] at h
  rcases cut_at_mark hnot h with ⟨rfl, rfl⟩ | ⟨later, -, hnil⟩
  · exact ⟨rfl, by simp⟩
  · simp at hnil

/-- Of the attempts of a run, those are followed by another that ended without a connection and
were not the last that the policy allows. -/
theorem tried_again_iff (left attempt : Nat) {world : World} {earlier rest : Trace}
    (h : ((client.attempts order url left attempt).start setting world).2 =
      world.after (earlier ++ .tried order.method :: rest)) :
    .tried order.method ∈ rest ↔
      Trace.tries earlier order.method < left ∧
        client.AttemptLost setting order url (world.after earlier) := by
  induction left generalizing attempt world earlier with
  | zero =>
    obtain ⟨sent, hend⟩ := attempts_end attempt (.inl rfl)
    rw [hend] at h
    obtain ⟨rfl, hrest⟩ := cut_of_one (World.after_inj.mp h)
    exact iff_of_false hrest (by simp)
  | succ left ih =>
    by_cases hlost : client.AttemptLost setting order url world
    · obtain ⟨sent, hagain⟩ := attempts_again left attempt hlost
      have hnot : .tried order.method ∉
          sent.map Event.sent ++ [.waited (client.policy.backoff attempt)] := by simp
      generalize sent.map Event.sent ++ [.waited (client.policy.backoff attempt)] = events
        at hagain hnot
      obtain ⟨more, hmore⟩ := attempts_begin client setting order url left (attempt + 1)
        (world.after (.tried order.method :: events))
      rw [hagain, hmore, World.after_after, World.after_inj] at h
      -- the record is cut at the attempt made here, or at one of those that are left
      rcases cut_at_mark hnot h with ⟨rfl, rfl⟩ | ⟨later, rfl, hlater⟩
      · simp [hlost, Trace.tries]
      · have hcount : Trace.tries (.tried order.method :: (events ++ later)) order.method =
            Trace.tries later order.method + 1 := by
          simp [Trace.tries, List.count_eq_zero.mpr hnot]
        rw [hlater] at hmore
        rw [ih (attempt + 1) hmore, hcount, World.after_after, List.cons_append]
        simp
    · obtain ⟨sent, hend⟩ := attempts_end attempt (.inr hlost)
      rw [hend] at h
      obtain ⟨rfl, hrest⟩ := cut_of_one (World.after_inj.mp h)
      exact iff_of_false hrest (by simp [hlost])

end Attempts

end Client

end DashboardCheck.Http
