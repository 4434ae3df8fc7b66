import DashboardCheck.Check.Login
import DashboardCheck.Proofs.Http.Attempts
import Mathlib.Data.List.Forall2

/-!
# Two runs side by side

Two runs of one program in two settings that tell them the same, but for the password of a new user.
Worlds are alike if the same was done in them, except that a login may have shown another password.
Programs are twins if they lead from alike worlds to alike worlds, with the same error or with
values that are related, and log the same on the way, but for times. Twins compose.
-/
namespace DashboardCheck

/-- What becomes of requests. -/
abbrev Network := World → Option Duration → Http.Request → Delivery

variable {network : Network}

namespace Http.Request

/-- The request without the text that it carries. -/
def bare (request : Request) : Request :=
  { request with content := request.content.map fun content => { content with body := "" } }

/-- Two requests of a login that differ in the password at most: those that ask for a token, and the
same again at the place that an answer to them names, if its status says to repeat them there. -/
inductive SameLogin (network : Network) : Request → Request → Prop where
  | asked {baseUrl : String} {target : Url} (username password password' : String) :
      Client.target (authUrl baseUrl) = .ok target →
      SameLogin network
        ⟨.post, target, apiMediaType,
          some ⟨"application/json", (credentials username password).compact⟩⟩
        ⟨.post, target, apiMediaType,
          some ⟨"application/json", (credentials username password').compact⟩⟩
  | repeated {request request' : Request} {world : World} {limit : Option Duration}
      {response : Response} {target : Url} :
      SameLogin network request request' →
      network world limit request = .answered response →
      response.status = 307 ∨ response.status = 308 →
      request.url.redirected? response = some target →
      SameLogin network { request with url := target } { request' with url := target }

/-- Two requests that are the same, or of one login. -/
def Alike (network : Network) (request request' : Request) : Prop :=
  request = request' ∨ SameLogin network request request'

variable {request request' : Request}

@[simp] theorem bare_url : request.bare.url = request.url := rfl

theorem SameLogin.bare_eq (h : SameLogin network request request') :
    request.bare = request'.bare := by
  induction h with
  | asked username password password' htarget => rfl
  | @repeated request request' world limit response target _ _ _ _ ih =>
    exact congrArg (fun bare : Request => { bare with url := target }) ih

theorem Alike.bare_eq (h : Alike network request request') : request.bare = request'.bare := by
  rcases h with rfl | hlogin
  · rfl
  · exact hlogin.bare_eq

theorem Alike.url_eq (h : Alike network request request') : request.url = request'.url := by
  rw [← request.bare_url, h.bare_eq, bare_url]

/-- Requests of one login are redirected to the same request, without content, or are repeated. -/
theorem SameLogin.movedTo (h : SameLogin network request request') {world : World}
    {limit : Option Duration} {response : Response}
    (hanswer : network world limit request = .answered response) {target : Url}
    (htarget : request.url.redirected? response = some target) :
    Alike network (request.movedTo response target) (request'.movedTo response target) := by
  rw [Request.movedTo, Request.movedTo]
  by_cases hget : statusesToGet.contains response.status
  · rw [if_pos hget, if_pos hget]
    have haccept : request.bare.accept = request'.bare.accept := congrArg Request.accept h.bare_eq
    simp only [bare] at haccept
    rw [haccept]
    exact .inl rfl
  · rw [if_neg hget, if_neg hget]
    exact .inr (.repeated h hanswer (Url.repeats_of_redirected htarget hget) htarget)

/-- Alike requests are redirected by the same answers, to alike requests. -/
theorem Alike.next? (h : Alike network request request') (follow : Bool) {world : World}
    {limit : Option Duration} {response : Response}
    (hanswer : network world limit request = .answered response) :
    (request.next? follow response = none ∧ request'.next? follow response = none) ∨
      ∃ next next', request.next? follow response = some next ∧
        request'.next? follow response = some next' ∧ Alike network next next' := by
  cases follow with
  | false => exact .inl ⟨rfl, rfl⟩
  | true =>
    simp only [Request.next?, if_true, follow?_eq, ← h.url_eq]
    cases htarget : request.url.redirected? response with
    | none => exact .inl ⟨rfl, rfl⟩
    | some target =>
      refine .inr ⟨_, _, rfl, rfl, ?_⟩
      rcases h with rfl | hlogin
      · exact .inl rfl
      · exact hlogin.movedTo hanswer htarget

end Http.Request

/-- The event without the text that a request carries. -/
def Event.bare : Event → Event
  | .sent request => .sent request.bare
  | event => event

/-- Two events that are the same, or requests of one login. -/
inductive Event.Alike (network : Network) : Event → Event → Prop where
  | same (event : Event) : Alike network event event
  | sent {request request' : Http.Request} :
      Http.Request.SameLogin network request request' →
      Alike network (.sent request) (.sent request')

theorem Event.Alike.bare_eq {event event' : Event} (h : Alike network event event') :
    event.bare = event'.bare := by
  cases h with
  | same event => rfl
  | sent hlogin => exact congrArg Event.sent hlogin.bare_eq

theorem Event.alike_sent {request request' : Http.Request}
    (h : Http.Request.Alike network request request') :
    Alike network (.sent request) (.sent request') := by
  rcases h with rfl | hlogin
  · exact .same _
  · exact .sent hlogin

namespace World

/-- The world without the texts that requests carried. -/
def bare (world : World) : World := { world with trace := world.trace.map Event.bare }

/-- Two worlds in which the same was done, but for the passwords that logins showed. -/
structure Alike (network : Network) (world world' : World) : Prop where
  trace : List.Forall₂ (Event.Alike network) world.trace world'.trace
  disk : world.disk = world'.disk

variable {world world' : World}

theorem Alike.refl (world : World) : Alike network world world :=
  ⟨List.forall₂_same.mpr fun event _ => .same event, rfl⟩

theorem Alike.bare_eq (h : Alike network world world') : world.bare = world'.bare := by
  obtain ⟨trace, disk⟩ := world
  obtain ⟨trace', disk'⟩ := world'
  obtain ⟨htrace, hdisk⟩ := h
  dsimp only at htrace hdisk
  have hbare : trace.map Event.bare = trace'.map Event.bare := by
    induction htrace with
    | nil => rfl
    | cons hevent _ ih => rw [List.map_cons, List.map_cons, hevent.bare_eq, ih]
  rw [bare, bare, hbare, hdisk]

/-- What is read off a record without requests is the same in alike worlds. -/
theorem Alike.countP_eq (h : Alike network world world') {p : Event → Bool}
    (hp : ∀ request, p (.sent request) = false) :
    world.trace.countP p = world'.trace.countP p := by
  have hevent : ∀ event event', Event.Alike network event event' → p event = p event' := by
    intro event event' halike
    cases halike with
    | same => rfl
    | sent _ => rw [hp, hp]
  have htrace := h.trace
  generalize world.trace = trace at htrace
  generalize world'.trace = trace' at htrace
  induction htrace with
  | nil => rfl
  | cons halike _ ih => rw [List.countP_cons, List.countP_cons, ih, hevent _ _ halike]

theorem Alike.namesMade_eq (h : Alike network world world') :
    world.trace.namesMade = world'.trace.namesMade :=
  h.countP_eq fun _ => rfl

theorem Alike.tempsMade_eq (h : Alike network world world') :
    world.trace.tempsMade = world'.trace.tempsMade :=
  h.countP_eq fun _ => rfl

/-- Worlds stay alike when alike things are done in them. -/
theorem Alike.add (h : Alike network world world') {event event' : Event} {disk disk' : Disk}
    (hevent : Event.Alike network event event') (hdisk : disk = disk') :
    Alike network ⟨world.trace ++ [event], disk⟩ ⟨world'.trace ++ [event'], disk'⟩ :=
  ⟨List.rel_append h.trace (.cons hevent .nil), hdisk⟩

end World

/-- Two results that are the same error, or values of which a relation holds. -/
inductive Paired {ε α β : Type} (R : α → β → Prop) : Except ε α → Except ε β → Prop where
  | ok {a : α} {b : β} : R a b → Paired R (.ok a) (.ok b)
  | error (e : ε) : Paired R (.error e) (.error e)

namespace Paired

variable {ε δ α β : Type} {R S : α → β → Prop} {x : Except ε α} {y : Except ε β}

theorem refl (x : Except ε α) : Paired Eq x x := by
  cases x with
  | ok a => exact .ok rfl
  | error e => exact .error e

theorem eq {x y : Except ε α} (h : Paired Eq x y) : x = y := by
  cases h with
  | ok hab => rw [hab]
  | error e => rfl

theorem mono (h : Paired R x y) (hRS : ∀ a b, R a b → S a b) : Paired S x y := by
  cases h with
  | ok hab => exact .ok (hRS _ _ hab)
  | error e => exact .error e

theorem of_eq {x y : Except ε α} {R : α → α → Prop} (hrefl : ∀ a, R a a) (h : x = y) :
    Paired R x y := by
  subst h
  refine (refl x).mono ?_
  rintro a _ rfl
  exact hrefl a

theorem mapError (h : Paired R x y) (f : ε → δ) : Paired R (x.mapError f) (y.mapError f) := by
  cases h with
  | ok hab => exact .ok hab
  | error e => exact .error (f e)

end Paired

namespace Json.Value

/-- The value with another one in the place of that under a name, if there is one. -/
def change (name : String) (f : Value → Value) : Value → Value
  | .object members =>
    .object (members.map fun member => (member.1, if member.1 = name then f member.2 else member.2))
  | value => value

/-- Two values that are the same, or differ in one text only, which is empty in neither. What writes
a text into its place is given. -/
def SameBut (write : String → Value → Value) (value value' : Value) : Prop :=
  value = value' ∨ ∃ base text text', text ≠ "" ∧ text' ≠ "" ∧
    value = write text base ∧ value' = write text' base

theorem get?_change_self (value : Value) (name : String) (f : Value → Value) :
    (value.change name f).get? name = (value.get? name).map f := by
  cases value with
  | object members =>
    change Dict.get? (members.map _) name = (Dict.get? members name).map f
    induction members with
    | nil => rfl
    | cons member rest ih =>
      rw [List.map_cons, Dict.get?_cons, Dict.get?_cons, ih]
      by_cases hname : member.1 = name
      · rw [if_pos hname, if_pos hname, if_pos hname, Option.map_some]
      · rw [if_neg hname, if_neg hname]
  | _ => rfl

theorem get?_change_other (value : Value) {name other : String} (f : Value → Value)
    (h : other ≠ name) : (value.change name f).get? other = value.get? other := by
  cases value with
  | object members =>
    change Dict.get? (members.map _) other = Dict.get? members other
    induction members with
    | nil => rfl
    | cons member rest ih =>
      rw [List.map_cons, Dict.get?_cons, Dict.get?_cons, ih]
      by_cases hother : member.1 = other
      · rw [if_pos hother, if_pos hother, if_neg (hother ▸ h)]
      · rw [if_neg hother, if_neg hother]
  | _ => rfl

end Json.Value

def ActionOutcome.writePassword (password : String) : Json.Value → Json.Value :=
  .change "password" fun _ => .string password

/-- Two outcomes of an action that are the same but for the password in the results. -/
structure ActionOutcome.Alike (o o' : ActionOutcome) : Prop where
  unit : o.unit = o'.unit
  status : o.status = o'.status
  results : Json.Value.SameBut writePassword o.results o'.results
  message : o.message = o'.message

theorem ActionOutcome.Alike.refl (o : ActionOutcome) : o.Alike o := ⟨rfl, rfl, .inl rfl, rfl⟩

/-- Two answers to a call that are the same but for the password in the results of an action. -/
def Call.AnswersAlike : (call : Call) → call.Answer → call.Answer → Prop
  | .units _ => Eq
  | .address _ => Eq
  | .action .. => ActionOutcome.Alike
  | .command .. => Eq
  | .names => Eq
  | .settings _ => Eq
  | .configure .. => Eq
  | .series _ => Eq
  | .copy .. => Eq

theorem Call.AnswersAlike.refl (call : Call) (answer : call.Answer) :
    call.AnswersAlike answer answer := by
  cases call with
  | action => exact ActionOutcome.Alike.refl answer
  | _ => rfl

namespace Setting

/-- Two settings in which the same names and temporary files are made up, with one network to which
the texts that requests carry do not matter. Their clocks may differ. -/
structure SameAround (setting setting' : Setting) : Prop where
  name : setting.name = setting'.name
  temp : setting.temp = setting'.temp
  network : ∀ {world world' : World} {request request' : Http.Request} (limit : Option Duration),
    world.bare = world'.bare → request.bare = request'.bare →
      setting.network world limit request = setting'.network world' limit request'
  tempFault : ∀ {world world' : World} (entry : Entry), world.bare = world'.bare →
    setting.tempFault world entry = setting'.tempFault world' entry

/-- Two settings whose orchestrators answer the same, too, but for passwords. -/
structure Alike (setting setting' : Setting) : Prop extends SameAround setting setting' where
  answer : ∀ {world world' : World} (call : Call), world.bare = world'.bare →
    Paired call.AnswersAlike (setting.orchestrator world call).1
      (setting'.orchestrator world' call).1
  disk : ∀ {world world' : World} (call : Call), world.bare = world'.bare →
    (setting.orchestrator world call).2 = (setting'.orchestrator world' call).2
  remarks : ∀ {world world' : World} (call : Call), world.bare = world'.bare →
    setting.remarks world call = setting'.remarks world' call

end Setting

namespace Program

variable {ε δ α β γ κ : Type} {s s' : Setting}

/-- Two programs that end in alike worlds if they begin in such, with the same error or with values
that are related, and with the same lines in the log, but for times. -/
def Twins (s s' : Setting) (R : α → β → Prop) (p : Program ε α) (q : Program ε β) : Prop :=
  ∀ world world', World.Alike s.network world world' →
    Paired R (p.start s world).1 (q.start s' world').1 ∧
      World.Alike s.network (p.start s world).2 (q.start s' world').2 ∧
      (p.logged s world).map LogLine.untimed = (q.logged s' world').map LogLine.untimed

variable {R : α → β → Prop} {S : γ → κ → Prop}

theorem twins_ofExcept {x : Except ε α} {y : Except ε β} (h : Paired R x y) :
    Twins s s' R (ofExcept x) (ofExcept y) :=
  fun _ _ hworld => ⟨h, hworld, rfl⟩

theorem twins_pure {a : α} {b : β} (h : R a b) :
    Twins s s' R (pure a : Program ε α) (pure b : Program ε β) :=
  twins_ofExcept (.ok h)

theorem twins_throw (e : ε) : Twins s s' R (throw e : Program ε α) (throw e : Program ε β) :=
  twins_ofExcept (.error e)

/-- Programs that are twins go on as twins from related values. -/
theorem Twins.bind {p : Program ε α} {q : Program ε β} {f : α → Program ε γ} {g : β → Program ε κ}
    (h : Twins s s' R p q) (hrest : ∀ a b, R a b → Twins s s' S (f a) (g b)) :
    Twins s s' S (p >>= f) (q >>= g) := by
  intro world world' hworld
  obtain ⟨hresult, hafter, hlog⟩ := h world world' hworld
  rw [start_bind, start_bind, logged_bind, logged_bind]
  generalize p.start s world = first at hresult hafter
  generalize q.start s' world' = second at hresult hafter
  obtain ⟨x, after⟩ := first
  obtain ⟨y, after'⟩ := second
  cases hresult with
  | ok hab =>
    obtain ⟨hlast, hfinish, hlater⟩ := hrest _ _ hab after after' hafter
    refine ⟨hlast, hfinish, ?_⟩
    rw [List.map_append, List.map_append, hlog]
    exact congrArg _ hlater
  | error e =>
    refine ⟨.error e, hafter, ?_⟩
    rw [List.map_append, List.map_append, hlog]

/-- A value on which both programs agree is handed on to both. -/
theorem Twins.bind_eq {p q : Program ε α} {f : α → Program ε γ} {g : α → Program ε κ}
    (h : Twins s s' Eq p q) (hrest : ∀ a, Twins s s' S (f a) (g a)) :
    Twins s s' S (p >>= f) (q >>= g) := by
  refine h.bind ?_
  rintro a _ rfl
  exact hrest a

/-- Lines that are the same up to times may be logged on both sides. -/
theorem twins_logAll {lines lines' : List LogLine}
    (h : lines.map LogLine.untimed = lines'.map LogLine.untimed) :
    Twins s s' Eq (logAll lines : Program ε Unit) (logAll lines') :=
  fun _ _ hworld => ⟨.ok rfl, hworld, h⟩

/-- Twins that logged the same before. -/
theorem Twins.after_log {lines : List LogLine} {p : Program ε α} {q : Program ε β}
    (h : Twins s s' R p q) :
    Twins s s' R (logAll lines >>= fun _ => p) (logAll lines >>= fun _ => q) :=
  (twins_logAll rfl).bind_eq fun _ => h

theorem Twins.mapError {p : Program ε α} {q : Program ε β} (h : Twins s s' R p q) (f : ε → δ) :
    Twins s s' R (p.mapError f) (q.mapError f) := by
  intro world world' hworld
  obtain ⟨hresult, hafter, hlog⟩ := h world world' hworld
  exact ⟨hresult.mapError f, hafter, hlog⟩

theorem Twins.attempt {p : Program ε α} {q : Program ε β} (h : Twins s s' R p q) :
    Twins s s' (Paired R) (p.attempt : Program δ _) (q.attempt : Program δ _) := by
  intro world world' hworld
  obtain ⟨hresult, hafter, hlog⟩ := h world world' hworld
  exact ⟨.ok hresult, hafter, hlog⟩

/-- Twins on both sides of a decision that does not tell them apart. -/
theorem Twins.ite {c : Prop} [Decidable c] {p p' : Program ε α} {q q' : Program ε β}
    (h : Twins s s' R p q) (h' : Twins s s' R p' q') :
    Twins s s' R (if c then p else p') (if c then q else q') := by
  by_cases hc : c
  · rwa [if_pos hc, if_pos hc]
  · rwa [if_neg hc, if_neg hc]

theorem twins_look :
    Twins s s' (World.Alike s.network) (look : Program ε World) (look : Program ε World) :=
  fun _ _ hworld => ⟨.ok hworld, hworld, rfl⟩

theorem twins_note (event : Event) :
    Twins s s' Eq (note event : Program ε Unit) (note event) :=
  fun _ _ hworld => ⟨.ok rfl, hworld.add (.same event) hworld.disk, rfl⟩

theorem twins_readFile (path : String) : Twins s s' Eq (readFile path) (readFile path) := by
  intro world world' hworld
  have hread : world.disk.read path = world'.disk.read path := by rw [hworld.disk]
  refine ⟨?_, hworld.add (.same (.read path)) hworld.disk, rfl⟩
  change Paired Eq (world.disk.read path) (world'.disk.read path)
  rw [hread]
  exact .refl _

/-- The clocks are the one thing of which nothing is known. -/
theorem twins_now : Twins s s' (fun _ _ => True) (now : Program ε Nat) now :=
  fun _ _ hworld => ⟨.ok trivial, hworld, rfl⟩

theorem twins_freshName (h : s.SameAround s') :
    Twins s s' Eq (freshName : Program ε String) freshName := by
  intro world world' hworld
  have hname : s.name world.trace.namesMade = s'.name world'.trace.namesMade := by
    rw [h.name, hworld.namesMade_eq]
  refine ⟨.ok hname, hworld.add ?_ hworld.disk, rfl⟩
  rw [hname]
  exact .same _

theorem twins_makeTemp (h : s.SameAround s') (entry : Entry) :
    Twins s s' Eq (makeTemp entry) (makeTemp entry) := by
  intro world world' hworld
  have hpath : s.temp world.trace.tempsMade = s'.temp world'.trace.tempsMade := by
    rw [h.temp, hworld.tempsMade_eq]
  have hfault := h.tempFault entry hworld.bare_eq
  have hlog : ∀ (setting : Setting) (world : World),
      (makeTemp entry).logged setting world = [] := by
    intro setting world
    simp only [logged, makeTemp]
    cases setting.tempFault world entry <;> rfl
  rw [start_makeTemp, start_makeTemp, hlog, hlog, ← hfault]
  cases s.tempFault world entry with
  | some e => exact ⟨.error e, hworld, rfl⟩
  | none =>
    refine ⟨.ok hpath, hworld.add ?_ ?_, rfl⟩
    · rw [hpath]
      exact .same _
    · rw [hpath, hworld.disk]

/-- What becomes of alike requests is the same, and it is what the network says. -/
theorem twins_deliver (h : s.SameAround s') (limit : Option Duration)
    {request request' : Http.Request} (hrequest : Http.Request.Alike s.network request request') :
    Twins s s' (fun d d' => d = d' ∧ ∃ world, s.network world limit request = d)
      (deliver limit request : Program ε Delivery) (deliver limit request') := by
  intro world world' hworld
  have hnetwork : s.network world limit request = s'.network world' limit request' :=
    h.network limit hworld.bare_eq hrequest.bare_eq
  have hlog : ∀ (setting : Setting) (world : World) (request : Http.Request),
      (deliver limit request : Program ε Delivery).logged setting world = [] := by
    intro setting world request
    simp only [logged, deliver]
    cases setting.network world limit request <;> rfl
  rw [deliver_after, deliver_after, hlog, hlog, ← hnetwork]
  refine ⟨.ok ⟨rfl, world, rfl⟩, ?_, rfl⟩
  by_cases hlost : s.network world limit request = .unconnected
  · rw [if_pos hlost, if_pos hlost, World.after_nil, World.after_nil]
    exact hworld
  · rw [if_neg hlost, if_neg hlost]
    exact hworld.add (Event.alike_sent hrequest) hworld.disk

theorem twins_ask (h : s.Alike s') (call : Call) :
    Twins s s' call.AnswersAlike (ask call) (ask call) := by
  intro world world' hworld
  refine ⟨h.answer call hworld.bare_eq,
    hworld.add (.same (.called call)) (h.disk call hworld.bare_eq), ?_⟩
  exact congrArg (List.map LogLine.untimed) (h.remarks call hworld.bare_eq)

end Program

end DashboardCheck
