import DashboardCheck.Proofs.Http.Attempts
import DashboardCheck.Proofs.Settled

/-!
# Programs that always do the same

A program is constant in a setting if, whatever was done before, it ends with one result and adds
the same to the record. Such programs compose. A `GET` is constant where the answer depends on the
address only, and all its attempts together get one answer, or none.
-/
namespace DashboardCheck

namespace Program

variable {ε δ α β : Type} {setting : Setting}

/-- In this setting a program always ends alike and does the same. -/
def Constant (setting : Setting) (p : Program ε α) (result : Except ε α) (events : Trace) : Prop :=
  ∀ world, ∃ disk, p.start setting world = (result, ⟨world.trace ++ events, disk⟩)

theorem constant_pure (a : α) : Constant setting (pure a : Program ε α) (.ok a) [] :=
  fun world => ⟨world.disk, by simp⟩

theorem constant_throw (e : ε) : Constant setting (throw e : Program ε α) (.error e) [] :=
  fun world => ⟨world.disk, by simp⟩

theorem constant_note (event : Event) :
    Constant setting (note event : Program ε Unit) (.ok ()) [event] :=
  fun world => ⟨world.disk, rfl⟩

theorem constant_ask {call : Call} {answer : Except OrchestratorError call.Answer}
    (h : ∀ world, (setting.orchestrator world call).1 = answer) :
    Constant setting (ask call) answer [.called call] := by
  intro world
  refine ⟨(setting.orchestrator world call).2, ?_⟩
  rw [start_ask, h]

variable {p : Program ε α} {f : α → Program ε β} {events more : Trace}

theorem Constant.mapError {result : Except ε α} (f : ε → δ) (h : Constant setting p result events) :
    Constant setting (p.mapError f) (result.mapError f) events := by
  intro world
  obtain ⟨disk, hstart⟩ := h world
  exact ⟨disk, by rw [start_mapError, hstart]⟩

/-- A course goes on behind a value. -/
theorem Constant.bind_ok {a : α} {result : Except ε β} (hp : Constant setting p (.ok a) events)
    (hf : Constant setting (f a) result more) :
    Constant setting (p >>= f) result (events ++ more) := by
  intro world
  obtain ⟨disk, hstart⟩ := hp world
  obtain ⟨disk', hrest⟩ := hf ⟨world.trace ++ events, disk⟩
  refine ⟨disk', ?_⟩
  rw [start_bind_ok setting world hstart, hrest, List.append_assoc]

theorem Constant.bind_error {e : ε} (hp : Constant setting p (.error e) events) :
    Constant setting (p >>= f) (.error e) events := by
  intro world
  obtain ⟨disk, hstart⟩ := hp world
  exact ⟨disk, start_bind_error setting world hstart⟩

/-- Log lines are no part of what is done. -/
theorem Constant.after_log {lines : List LogLine} {q : Program ε α} {result : Except ε α}
    (h : Constant setting q result events) :
    Constant setting (logAll lines >>= fun _ => q) result events := h

def requestsIn (p : Program ε α) (setting : Setting) (world : World) : List Http.Request :=
  Trace.requests ((p.start setting world).2.trace.drop world.trace.length)

theorem Constant.requestsIn_eq {result : Except ε α} (h : Constant setting p result events)
    (world : World) : p.requestsIn setting world = Trace.requests events := by
  obtain ⟨disk, hstart⟩ := h world
  rw [requestsIn, hstart, List.drop_left]

theorem Constant.result_eq {result : Except ε α} (h : Constant setting p result events)
    (world : World) : (p.start setting world).1 = result := by
  obtain ⟨disk, hstart⟩ := h world
  rw [hstart]

end Program

theorem Trace.requests_append (earlier later : Trace) :
    requests (earlier ++ later) = requests earlier ++ requests later := by
  simp [requests]

namespace Http

/-- A request that is answered with 200. -/
def Succeeds (reply : Url → Delivery) (request : Request) : Prop :=
  ∃ response, reply request.url = .answered response ∧ response.status = 200

/-- In this setting the answer to a `GET` depends on the address only. -/
def Client.Hears (client : Client) (setting : Setting) (reply : Url → Delivery) : Prop :=
  ∀ world request, request.method = .get →
    setting.network world client.limit request = reply request.url

/-- What a `GET` comes to: one request with an answer, or an error and no answered request. -/
structure Heard (reply : Url → Delivery) (result : Except ε Arrival) (events : Trace) : Prop where
  answered : ∀ arrival, result = .ok arrival → ∃ request, Trace.requests events = [request] ∧
    reply request.url = .answered arrival.response
  failed : ∀ e, result = .error e → ∀ request ∈ Trace.requests events,
    ¬ Succeeds reply request

section Heard

variable {reply : Url → Delivery}

/-- An arrival was heard if it is the reply to the one request that was sent. -/
theorem Heard.of_ok {arrival : Arrival} {request : Request} {events : Trace}
    (hsent : Trace.requests events = [request])
    (hreply : reply request.url = .answered arrival.response) :
    Heard reply (.ok arrival : Except ε Arrival) events where
  answered := by
    intro arrival' harrival
    obtain rfl : arrival = arrival' := Except.ok.inj harrival
    exact ⟨request, hsent, hreply⟩
  failed := by simp

/-- Nothing was heard where no request succeeds. -/
theorem Heard.of_error {e : ε} {events : Trace}
    (h : ∀ request ∈ Trace.requests events, ¬ Succeeds reply request) :
    Heard reply (.error e : Except ε Arrival) events where
  answered := by simp
  failed := fun _ _ => h

end Heard

namespace Client

open Program (Constant)

variable {ε : Type} {client : Client} {setting : Setting} {reply : Url → Delivery}

/-- An attempt without a connection sent nothing. -/
def LostUnsent (result : Except TransportError Arrival) (events : Trace) : Prop :=
  ∀ e, result = .error e → e.isConnect = true → Trace.requests events = []

/-- Where replies depend on the address only, a `GET` that follows no redirect ends alike
everywhere. -/
theorem exchange_constant (h : client.Hears setting reply) (left : Nat) {request : Request}
    (hget : request.method = .get) :
    ∃ result events, Constant setting (client.exchange false left request : Program ε _)
      (.ok result) events ∧ Heard reply result events ∧ LostUnsent result events := by
  cases hreply : reply request.url with
  | unconnected =>
    refine ⟨.error ⟨.noConnection, some request.url⟩, [], fun world => ⟨world.disk, ?_⟩,
      .of_error (by simp [Trace.requests]), fun _ _ _ => rfl⟩
    rw [exchange_unconnected client setting false ((h world request hget).trans hreply)]
    simp
  | unanswered =>
    refine ⟨.error ⟨.noAnswer, some request.url⟩, [.sent request],
      fun world => ⟨world.disk, ?_⟩, .of_error ?_, ?_⟩
    · rw [exchange_unanswered client setting false ((h world request hget).trans hreply)]
      rfl
    · intro sent hsent
      obtain rfl : sent = request := by simpa [Trace.requests] using hsent
      rintro ⟨response, hanswered, -⟩
      rw [hreply] at hanswered
      cases hanswered
    · intro e he hconnect
      cases he
      simp [TransportError.isConnect] at hconnect
  | answered response =>
    refine ⟨.ok ⟨response, request.url⟩, [.sent request], fun world => ⟨world.disk, ?_⟩,
      .of_ok rfl hreply, by simp [LostUnsent]⟩
    rw [exchange_answered client setting false ((h world request hget).trans hreply) rfl]
    rfl

theorem once_constant (h : client.Hears setting reply) (url : String) :
    ∃ result events, Constant setting
      (client.once ⟨.get, false, anything, none⟩ url : Program ε _) (.ok result) events ∧
        Heard reply result events ∧ LostUnsent result events := by
  rw [once]
  cases htarget : target url with
  | error e =>
    exact ⟨.error e, _, (Program.constant_note _).bind_ok (Program.constant_pure _),
      .of_error (by simp [Trace.requests]), fun _ _ _ => rfl⟩
  | ok found =>
    have hget : (Request.mk .get found anything none).method = .get := rfl
    obtain ⟨result, events, hrun, hheard, hlost⟩ :=
      exchange_constant (ε := ε) h maxRedirections hget
    have hsame : Trace.requests (.tried .get :: events) = Trace.requests events := rfl
    refine ⟨result, .tried .get :: events, (Program.constant_note _).bind_ok hrun, ?_, ?_⟩
    · exact ⟨hsame ▸ hheard.answered, hsame ▸ hheard.failed⟩
    · exact fun e he hconnect => hsame ▸ hlost e he hconnect

/-- All attempts together get one answer, or none. -/
theorem attempts_constant (h : client.Hears setting reply) (url : String) (left attempt : Nat) :
    ∃ result events, Constant setting
      (client.attempts ⟨.get, false, anything, none⟩ url left attempt) result events ∧
        Heard reply result events := by
  obtain ⟨result, events, honce, hheard, hlost⟩ := once_constant (ε := CheckError) h url
  cases result with
  | ok arrival =>
    obtain ⟨request, hsent, hreply⟩ := hheard.answered arrival rfl
    refine ⟨.ok arrival, events ++ [], ?_, ?_⟩
    · rw [attempts.eq_def]
      exact .after_log (honce.bind_ok (Program.constant_pure arrival).after_log)
    · rw [List.append_nil]
      exact .of_ok hsent hreply
  | error e =>
    have hunanswered := hheard.failed e rfl
    have hgiveUp : ∀ attempt, Constant setting
        (giveUp ⟨.get, false, anything, none⟩ url attempt e) (.error (.transport url e)) [] :=
      fun _ => (Program.constant_throw _).after_log
    -- each attempt fails alike, so only how many are left decides how often that is
    induction left generalizing attempt with
    | zero =>
      refine ⟨.error (.transport url e), events ++ [], ?_, ?_⟩
      · rw [attempts]
        exact .after_log (honce.bind_ok (hgiveUp attempt))
      · rw [List.append_nil]
        exact .of_error hunanswered
    | succ left ih =>
      rw [attempts]
      by_cases hconnect : e.isConnect = true
      · obtain ⟨result, more, hrest, hmore⟩ := ih (attempt + 1)
        let waited := Event.waited (client.policy.backoff attempt)
        have hsame : Trace.requests (events ++ (waited :: more)) = Trace.requests more := by
          rw [Trace.requests_append, hlost e rfl hconnect]
          rfl
        refine ⟨result, events ++ (waited :: more), .after_log (honce.bind_ok ?_),
          hsame ▸ hmore.answered, hsame ▸ hmore.failed⟩
        dsimp only
        rw [if_pos hconnect]
        exact .after_log ((Program.constant_note waited).bind_ok hrest)
      · refine ⟨.error (.transport url e), events ++ [], .after_log (honce.bind_ok ?_), ?_⟩
        · dsimp only
          rw [if_neg hconnect]
          exact hgiveUp attempt
        · rw [List.append_nil]
          exact .of_error hunanswered

/-- With all its attempts a `GET` still ends alike everywhere, since each attempt does. -/
theorem get_constant (h : client.Hears setting reply) (url : String) :
    ∃ result events, Constant setting (client.get url false) result events ∧
      Heard reply result events :=
  attempts_constant h url _ 1

end Client

end Http

end DashboardCheck
