import DashboardCheck.Proofs.Http.Attempts
import DashboardCheck.Proofs.Settled

/-!
# Requests on a network without memory

Where an answer depends on nothing but the time limit, the method and the address, so does all that
comes of a request with its redirections and its further attempts. What a request carries has no say
in it.
-/
namespace DashboardCheck

namespace Http

/-- What becomes of requests, if it depends on the time limit, the method and the address only. -/
abbrev Replies := Option Duration → Method → Url → Delivery

/-- An invariant with such a network, which no quiet event breaks. -/
structure Memoryless (replies : Replies) (keep : Program.Invariant) : Prop where
  network : ∀ {setting : Setting} {trace : Trace}, keep setting trace →
    ∀ world limit request,
      setting.network world limit request = replies limit request.method request.url
  quiet : ∀ {setting : Setting} {trace : Trace} (event : Event), event.IsQuiet →
    keep setting trace → keep setting (trace ++ [event])

/-- Where a redirection leads depends on the method and the address only. -/
theorem Request.next?_line {request : Request} (request' : Request) (follow : Bool)
    (response : Response) (hmethod : request'.method = request.method)
    (hurl : request'.url = request.url) :
    (request'.next? follow response).map (fun next => (next.method, next.url)) =
      (request.next? follow response).map fun next => (next.method, next.url) := by
  cases follow with
  | false => simp [next?]
  | true =>
    simp only [next?, if_true]
    rw [follow?_eq, follow?_eq, hurl, Option.map_map, Option.map_map]
    congr 1
    funext target
    simp only [Function.comp_apply, movedTo]
    split
    · rfl
    · rw [hmethod]

namespace Client

open Program (Gives Settled)

variable {ε : Type} {replies : Replies} {keep : Program.Invariant} (client : Client)

/-- What comes of a request with its redirections depends on its method and address only. -/
theorem exchange_gives (hkeep : Memoryless replies keep) (follow : Bool) :
    ∀ (left : Nat) (method : Method) (url : Url),
      ∃ result, ∀ request : Request, request.method = method → request.url = url →
        Gives keep (client.exchange follow left request : Program ε _) (.ok result)
  | left, method, url => by
    have hnetwork : ∀ {setting : Setting} {world : World}, keep setting world.trace →
        ∀ request : Request, request.method = method → request.url = url →
          setting.network world client.limit request = replies client.limit method url := by
      rintro setting world hworld request rfl rfl
      exact hkeep.network hworld world client.limit request
    have hsent : ∀ {setting : Setting} {world : World}, keep setting world.trace →
        ∀ request : Request, keep setting (world.after [.sent request]).trace :=
      fun hworld request => hkeep.quiet (.sent request) trivial hworld
    cases hreply : replies client.limit method url with
    | unconnected =>
      refine ⟨.error ⟨.noConnection, some url⟩, fun request hmethod hurl setting world hworld => ?_⟩
      have hnet := (hnetwork hworld request hmethod hurl).trans hreply
      exact ⟨world, hurl ▸ exchange_unconnected client setting follow hnet, hworld⟩
    | unanswered =>
      refine ⟨.error ⟨.noAnswer, some url⟩, fun request hmethod hurl setting world hworld => ?_⟩
      have hnet := (hnetwork hworld request hmethod hurl).trans hreply
      exact ⟨_, hurl ▸ exchange_unanswered client setting follow hnet, hsent hworld request⟩
    | answered response =>
      -- what a request carries has no say in where an answer leads, so a bare one stands for all
      let plain : Request := ⟨method, url, anything, none⟩
      have hline : ∀ request : Request, request.method = method → request.url = url →
          (request.next? follow response).map (fun next => (next.method, next.url)) =
            (plain.next? follow response).map fun next => (next.method, next.url) :=
        fun request hmethod hurl => Request.next?_line request follow response hmethod hurl
      cases hfirst : plain.next? follow response with
      | none =>
        refine ⟨.ok ⟨response, url⟩, fun request hmethod hurl setting world hworld => ?_⟩
        have hnet := (hnetwork hworld request hmethod hurl).trans hreply
        have hstay : request.next? follow response = none := by
          simpa [hfirst] using hline request hmethod hurl
        exact ⟨_, hurl ▸ exchange_answered client setting follow hnet hstay, hsent hworld request⟩
      | some first =>
        have hnext : ∀ request : Request, request.method = method → request.url = url →
            ∃ next, request.next? follow response = some next ∧
              next.method = first.method ∧ next.url = first.url := by
          intro request hmethod hurl
          simpa [hfirst] using hline request hmethod hurl
        match left with
        | 0 =>
          refine ⟨.error ⟨.redirectedTooOften, some first.url⟩,
            fun request hmethod hurl setting world hworld => ?_⟩
          have hnet := (hnetwork hworld request hmethod hurl).trans hreply
          obtain ⟨next, hnext, -, hnexturl⟩ := hnext request hmethod hurl
          exact ⟨_, hnexturl ▸ exchange_redirected_too_often client setting follow hnet hnext,
            hsent hworld request⟩
        | left + 1 =>
          obtain ⟨result, hrest⟩ := exchange_gives hkeep follow left first.method first.url
          refine ⟨result, fun request hmethod hurl setting world hworld => ?_⟩
          have hnet := (hnetwork hworld request hmethod hurl).trans hreply
          obtain ⟨next, hnext, hnextmethod, hnexturl⟩ := hnext request hmethod hurl
          obtain ⟨finish, hrun, hfinish⟩ :=
            hrest next hnextmethod hnexturl setting _ (hsent hworld request)
          refine ⟨finish, ?_, hfinish⟩
          rw [exchange_redirected client setting follow hnet hnext, hrun]

/-- What comes of an attempt does not depend on what it carries. -/
theorem once_gives (hkeep : Memoryless replies keep) (method : Method) (follow : Bool)
    (url : String) :
    ∃ result, ∀ order : Order, order.method = method → order.follow = follow →
      Gives keep (client.once order url : Program ε _) (.ok result) := by
  have htried : ∀ order : Order,
      Gives keep (Program.note (.tried order.method) : Program ε Unit) (.ok ()) :=
    fun order => Program.gives_note fun _ _ => hkeep.quiet (.tried order.method) trivial
  cases htarget : target url with
  | error e =>
    refine ⟨.error e, fun order _ _ => (htried order).bind_ok ?_⟩
    simp only [htarget]
    exact Program.gives_pure _
  | ok found =>
    obtain ⟨result, hrest⟩ :=
      exchange_gives (ε := ε) client hkeep follow maxRedirections method found
    refine ⟨result, fun order hmethod hfollow => (htried order).bind_ok ?_⟩
    simp only [htarget, hfollow]
    exact hrest _ hmethod rfl

section Attempts

variable {client} {order : Order} {url : String}

/-- An attempt that arrives is the last one. -/
theorem attempts_arrived {arrival : Arrival} (left attempt : Nat)
    (h : Gives keep (client.once order url : Program CheckError _) (.ok (.ok arrival))) :
    Gives keep (client.attempts order url left attempt) (.ok arrival) := by
  rw [attempts]
  exact .after_log (h.bind_ok (Program.gives_pure arrival).after_log)

/-- An attempt that fails is the last one if no other is allowed, or if the failure is not the want
of a connection. -/
theorem attempts_failed {e : TransportError} {left : Nat} (attempt : Nat)
    (h : Gives keep (client.once order url : Program CheckError _) (.ok (.error e)))
    (hend : left = 0 ∨ e.isConnect = false) :
    Gives keep (client.attempts order url left attempt) (.error (.transport url e)) := by
  have hgiveUp : Gives keep (giveUp order url attempt e) (.error (.transport url e)) :=
    (Program.gives_throw _).after_log
  rw [attempts]
  refine .after_log (h.bind_ok ?_)
  cases left with
  | zero => exact hgiveUp
  | succ left =>
    have hconnect : e.isConnect = false := hend.resolve_left (by simp)
    simp only [hconnect]
    exact hgiveUp

/-- An attempt without a connection is followed by the others that are allowed. -/
theorem attempts_repeated (hkeep : Memoryless replies keep) {e : TransportError}
    {left attempt : Nat} {result : Except CheckError Arrival}
    (h : Gives keep (client.once order url : Program CheckError _) (.ok (.error e)))
    (hconnect : e.isConnect = true)
    (hrest : Gives keep (client.attempts order url left (attempt + 1)) result) :
    Gives keep (client.attempts order url (left + 1) attempt) result := by
  rw [attempts]
  refine .after_log (h.bind_ok ?_)
  simp only [hconnect, if_true]
  refine .after_log ?_
  exact (Program.gives_note fun _ _ =>
    hkeep.quiet (.waited (client.policy.backoff attempt)) trivial).bind_ok hrest

end Attempts

/-- What comes of all attempts does not depend on what they carry. -/
theorem attempts_gives (hkeep : Memoryless replies keep) (method : Method) (follow : Bool)
    (url : String) (left attempt : Nat) :
    ∃ result, ∀ order : Order, order.method = method → order.follow = follow →
      Gives keep (client.attempts order url left attempt) result := by
  obtain ⟨first, hfirst⟩ := once_gives (ε := CheckError) client hkeep method follow url
  cases first with
  | ok arrival =>
    exact ⟨.ok arrival, fun order hmethod hfollow =>
      attempts_arrived left attempt (hfirst order hmethod hfollow)⟩
  | error e =>
    induction left generalizing attempt with
    | zero =>
      exact ⟨.error (.transport url e), fun order hmethod hfollow =>
        attempts_failed attempt (hfirst order hmethod hfollow) (.inl rfl)⟩
    | succ left ih =>
      cases hconnect : e.isConnect with
      | false =>
        exact ⟨.error (.transport url e), fun order hmethod hfollow =>
          attempts_failed attempt (hfirst order hmethod hfollow) (.inr hconnect)⟩
      | true =>
        obtain ⟨result, hrest⟩ := ih (attempt + 1)
        exact ⟨result, fun order hmethod hfollow => attempts_repeated hkeep
          (hfirst order hmethod hfollow) hconnect (hrest order hmethod hfollow)⟩

theorem get_settled (hkeep : Memoryless replies keep) (url : String) (follow : Bool) :
    Settled keep (client.get url follow) := by
  obtain ⟨result, hresult⟩ :=
    attempts_gives client hkeep .get follow url (client.policy.maxAttempts - 1) 1
  exact ⟨result, hresult ⟨.get, follow, anything, none⟩ rfl rfl⟩

/-- What comes of a `POST` does not depend on its content. -/
theorem postJson_gives (hkeep : Memoryless replies keep) (url accept mediaType : String) :
    ∃ result, ∀ body, Gives keep (client.postJson url body accept mediaType) result := by
  obtain ⟨result, hresult⟩ :=
    attempts_gives client hkeep .post true url (client.policy.maxAttempts - 1) 1
  exact ⟨result, fun body => hresult ⟨.post, true, accept, some ⟨mediaType, body.compact⟩⟩ rfl rfl⟩

end Client

end Http

end DashboardCheck
