import DashboardCheck.Proofs.Http.Attempts

/-!
# A delivered `POST`

A `POST` is delivered when a server has answered it. The retry rule looks at the end of an attempt
only, so a delivered `POST` is sent again if the server redirected it to an address without a
connection. The main statement says that this is the only way.
-/
namespace DashboardCheck.Http.Client

variable (client : Client) (setting : Setting) (order : Order) (url : String)

def postOrder (body : Json.Value) (accept mediaType : String) : Order :=
  ⟨.post, true, accept, some ⟨mediaType, body.compact⟩⟩

/-- A run made an attempt after the events `earlier` and went on with the events `rest`. -/
def AttemptAt (method : Method) (start finish : World) (earlier rest : Trace) : Prop :=
  finish.trace = start.trace ++ (earlier ++ .tried method :: rest)

/-- A server answers the first request of the attempt made in this world. -/
def Delivered (world : World) : Prop :=
  ∃ request response, order.request? url = some request ∧
    setting.network (order.begun world) client.limit request = .answered response

/-- A server answers the first request of the attempt made in this world with a redirection, and
from there the answers lead to an address without a connection. -/
def LostBehindAnswer (world : World) : Prop :=
  ∃ request response next, order.request? url = some request ∧
    setting.network (order.begun world) client.limit request = .answered response ∧
    request.next? order.follow response = some next ∧
    client.LosesConnection setting order.follow (maxRedirections - 1) next
      ((order.begun world).after [.sent request])

/-- A connection is lost behind an answer if something was delivered and the attempt is lost all the
same. -/
theorem lostBehindAnswer_iff (world : World) :
    client.LostBehindAnswer setting order url world ↔
      client.Delivered setting order url world ∧ client.AttemptLost setting order url world := by
  constructor
  · rintro ⟨request, response, next, hrequest, hanswer, hnext, hlost⟩
    exact ⟨⟨request, response, hrequest, hanswer⟩, request, hrequest, .beyond hanswer hnext hlost⟩
  · rintro ⟨⟨request, response, hrequest, hanswer⟩, request', hrequest', hlost⟩
    obtain rfl : request = request' := by simpa [hrequest] using hrequest'
    cases hlost with
    | here hnone => simp [hanswer] at hnone
    | @beyond _ _ response' next _ hanswer' hnext hrest =>
      obtain rfl : response = response' := by simpa [hanswer] using hanswer'
      exact ⟨request, response, next, hrequest, hanswer, hnext, hrest⟩

/-- The attempts of a `POST` are those of its order. -/
theorem attemptAt_postJson_iff {body : Json.Value} {accept mediaType : String}
    {world : World} {earlier rest : Trace}
    (h : AttemptAt .post world
      ((client.postJson url body accept mediaType).start setting world).2 earlier rest) :
    .tried .post ∈ rest ↔
      Trace.tries earlier .post + 1 < client.policy.maxAttempts ∧
        client.AttemptLost setting (postOrder body accept mediaType) url
          (world.after earlier) := by
  let order := postOrder body accept mediaType
  have hrun : client.postJson url body accept mediaType =
      client.attempts order url (client.policy.maxAttempts - 1) 1 := rfl
  obtain ⟨more, hmore⟩ :=
    attempts_begin client setting order url (client.policy.maxAttempts - 1) 1 world
  have hworld : ((client.attempts order url (client.policy.maxAttempts - 1) 1).start
      setting world).2 = world.after (earlier ++ .tried order.method :: rest) := by
    rw [AttemptAt, hrun, hmore, World.after_trace, List.append_cancel_left_eq] at h
    rw [hmore, h]
    rfl
  rw [show Event.tried .post = .tried order.method from rfl, tried_again_iff _ 1 hworld]
  rw [Nat.lt_sub_iff_add_lt]
  rfl

/-- Nothing is tried after a delivered `POST`, exactly if no attempt before the last that the policy
allows was redirected, by the answer to its `POST`, to where there is no connection. -/
theorem postJson_ends_with_delivery_iff (client : Client) (url : String) (body : Json.Value)
    (accept mediaType : String) (setting : Setting) (world : World) :
    let order := postOrder body accept mediaType
    let finish := ((client.postJson url body accept mediaType).start setting world).2
    (∀ earlier rest, AttemptAt .post world finish earlier rest →
      client.Delivered setting order url (world.after earlier) → .tried .post ∉ rest) ↔
    ∀ earlier rest, AttemptAt .post world finish earlier rest →
      Trace.tries earlier .post + 1 < client.policy.maxAttempts →
        ¬ client.LostBehindAnswer setting order url (world.after earlier) := by
  intro order finish
  constructor
  · intro hclaim earlier rest hattempt hnumber hlost
    obtain ⟨hdelivered, hlost⟩ := (client.lostBehindAnswer_iff setting order url _).mp hlost
    refine hclaim earlier rest hattempt hdelivered ?_
    exact (client.attemptAt_postJson_iff setting url hattempt).mpr ⟨hnumber, hlost⟩
  · intro hcondition earlier rest hattempt hdelivered hagain
    obtain ⟨hnumber, hlost⟩ := (client.attemptAt_postJson_iff setting url hattempt).mp hagain
    refine hcondition earlier rest hattempt hnumber ?_
    exact (client.lostBehindAnswer_iff setting order url _).mpr ⟨hdelivered, hlost⟩

/-- A network in which servers without encryption redirect to one that cannot be reached. -/
def relocated : Setting where
  orchestrator world _ := (.error (.spawn "" ""), world.disk)
  network _ _ request :=
    if request.url.scheme = "http".toList then .answered ⟨307, some "https://[::1]/token", ""⟩
    else .unconnected
  name _ := ""
  temp _ := ""
  clock _ := 0

def persistent : Client := ⟨none, none, .immediate 3⟩

def tokenRequest : Request where
  method := .post
  url := ⟨"http".toList, .none, some "[::1]".toList, none, .segments ["token".toList], none, none⟩
  accept := anything
  content := some ⟨"application/json", "null"⟩

theorem delivered_post_is_sent_again :
    let order := postOrder .null anything "application/json"
    let world : World := ⟨[], ⟨[], []⟩⟩
    let finish := ((persistent.postJson "http://[::1]/token" .null anything
      "application/json").start relocated world).2
    Trace.requests finish.trace = [tokenRequest, tokenRequest, tokenRequest] ∧
    ¬ ∀ earlier rest, AttemptAt .post world finish earlier rest →
      persistent.Delivered relocated order "http://[::1]/token" (world.after earlier) →
        .tried .post ∉ rest := by
  intro order world finish
  refine ⟨by decide +kernel, ?_⟩
  intro h
  let again : Trace := [.sent tokenRequest, .waited ⟨0⟩, .tried .post]
  have hattempt : AttemptAt .post world finish [] (again ++ again ++ [.sent tokenRequest]) := by
    show finish.trace = _
    decide +kernel
  refine h [] _ hattempt ⟨tokenRequest, ⟨307, some "https://[::1]/token", ""⟩, ?_, ?_⟩ ?_
  · decide +kernel
  · decide +kernel
  · decide +kernel

end DashboardCheck.Http.Client
