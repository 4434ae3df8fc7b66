import DashboardCheck.Proofs.Check.Topology
import DashboardCheck.Proofs.Command.Probe
import DashboardCheck.Proofs.Constant
import Mathlib.Data.List.Forall2

/-!
# The active unit, found in two ways

One way asks all units and keeps their addresses by status, the other stops at the first unit that
answers 200. Where units, addresses and answers stay as they are, the two agree: on the unit, on the
error if a unit cannot be asked, and on the requests up to the first answer of 200.
-/
namespace DashboardCheck

namespace Context

open Program (Constant)

/-- Units, addresses and the answers to a `GET` stay as they are. -/
structure Still (ctx : Context) (setting : Setting)
    (units : Except OrchestratorError (List String))
    (address : String → Except OrchestratorError String) (reply : Http.Url → Delivery) : Prop where
  units : ∀ world, (setting.orchestrator world (.units ctx.application)).1 = units
  address : ∀ world unit, (setting.orchestrator world (.address unit)).1 = address unit
  hears : ctx.http.Hears setting reply

variable {ctx : Context} {setting : Setting} {units : Except OrchestratorError (List String)}
  {address : String → Except OrchestratorError String} {reply : Http.Url → Delivery}

/-- What asking a unit comes to. -/
abbrev Answers := String → Except CheckError (String × String × Nat)

/-- What asking each unit comes to in a setting, and what is done for it. -/
structure Asked (ctx : Context) (setting : Setting) (reply : Http.Url → Delivery)
    (answer : Answers) (events : String → Trace) : Prop where
  probe : ∀ unit, Constant setting (ctx.probe unit) (answer unit) (events unit)
  url : ∀ unit place url status, answer unit = .ok (place, url, status) → url = ctx.unitUrl place
  answered : ∀ unit place url status, answer unit = .ok (place, url, status) →
    ∃ request, Trace.requests (events unit) = [request] ∧
      (Http.Succeeds reply request ↔ status = Topology.active)
  failed : ∀ unit e, answer unit = .error e → ∀ request ∈ Trace.requests (events unit),
    ¬ Http.Succeeds reply request

/-- A question whose answer does not depend on what was done before ends alike everywhere. -/
theorem consult_constant {call : Call} {answer : Except OrchestratorError call.Answer}
    (h : ∀ world, (setting.orchestrator world call).1 = answer) :
    Constant setting (consult call) (answer.mapError .orchestrator) [.called call] :=
  (Program.constant_ask h).mapError _

/-- While units and network stand still, a probe of a unit sends at most one request, and the status
that it tells is that of the reply. -/
theorem Still.probe (h : ctx.Still setting units address reply) (unit : String) :
    ∃ result events, Constant setting (ctx.probe unit) result events ∧
      (∀ place url status, result = .ok (place, url, status) → url = ctx.unitUrl place ∧
        ∃ request, Trace.requests events = [request] ∧
          (Http.Succeeds reply request ↔ status = Topology.active)) ∧
      ∀ e, result = .error e → ∀ request ∈ Trace.requests events,
        ¬ Http.Succeeds reply request := by
  have hconsult := consult_constant (h.address · unit)
  cases haddress : address unit with
  | error e =>
    rw [haddress] at hconsult
    refine ⟨.error (.orchestrator e), _, hconsult.bind_error, by simp, ?_⟩
    simp [Trace.requests]
  | ok place =>
    rw [haddress] at hconsult
    obtain ⟨result, events, hget, hheard⟩ := Http.Client.get_constant h.hears (ctx.unitUrl place)
    cases result with
    | error e =>
      refine ⟨.error e, _, hconsult.bind_ok hget.bind_error, by simp, ?_⟩
      rintro e' -
      exact hheard.failed e rfl
    | ok arrival =>
      obtain ⟨request, hsent, hreply⟩ := hheard.answered arrival rfl
      refine ⟨.ok (place, ctx.unitUrl place, arrival.response.status), _,
        hconsult.bind_ok (hget.bind_ok (Program.constant_pure _)), ?_, by simp⟩
      intro place' url status hresult
      obtain ⟨rfl, rfl, rfl⟩ : place = place' ∧ ctx.unitUrl place = url ∧
          arrival.response.status = status := by simpa using hresult
      refine ⟨rfl, request, by simpa [Trace.requests] using hsent, ?_, ?_⟩
      · rintro ⟨response, hanswered, hstatus⟩
        rw [hreply] at hanswered
        cases hanswered
        exact hstatus
      · intro hstatus
        exact ⟨arrival.response, hreply, hstatus⟩

/-- Asking a unit does the same each time. -/
theorem Still.asked (h : ctx.Still setting units address reply) :
    ∃ answer events, ctx.Asked setting reply answer events := by
  choose answer events hprobe hanswered hfailed using h.probe
  exact ⟨answer, events, hprobe,
    fun unit place url status hunit => (hanswered unit place url status hunit).1,
    fun unit place url status hunit => (hanswered unit place url status hunit).2,
    hfailed⟩

section Rows

variable {answer : Answers} {events : String → Trace}

/-- A unit answered, from this address with this status. -/
def Answered (ctx : Context) (answer : Answers) (unit : String) (probe : String × Nat) : Prop :=
  answer unit = .ok (probe.1, ctx.unitUrl probe.1, probe.2)

variable (hasked : ctx.Asked setting reply answer events)

include hasked

/-- Of a row of units all answer, or one fails after others that answer. -/
theorem Asked.row (row : List String) :
    (∃ probes, List.Forall₂ (ctx.Answered answer) row probes) ∨
      ∃ earlier failing later probes e, row = earlier ++ failing :: later ∧
        List.Forall₂ (ctx.Answered answer) earlier probes ∧ answer failing = .error e := by
  induction row with
  | nil => exact .inl ⟨[], .nil⟩
  | cons unit rest ih =>
    cases hunit : answer unit with
    | error e => exact .inr ⟨[], unit, rest, [], e, rfl, .nil, hunit⟩
    | ok found =>
      obtain ⟨place, url, status⟩ := found
      have hanswered : ctx.Answered answer unit (place, status) := by
        rw [Answered, hunit, hasked.url unit place url status hunit]
      rcases ih with ⟨probes, hrest⟩ | ⟨earlier, failing, later, probes, e, rfl, hearlier, hfail⟩
      · exact .inl ⟨(place, status) :: probes, .cons hanswered hrest⟩
      · exact .inr ⟨unit :: earlier, failing, later, (place, status) :: probes, e, rfl,
          .cons hanswered hearlier, hfail⟩

/-- Asking all units goes through those that answer. -/
theorem Asked.probeAll_append {earlier rest : List String} {probes : List (String × Nat)}
    (hearlier : List.Forall₂ (ctx.Answered answer) earlier probes)
    {result : Except CheckError (List (String × Nat))} {more : Trace}
    (hrest : Constant setting (ctx.probeAll rest) result more) :
    Constant setting (ctx.probeAll (earlier ++ rest)) (result.map (probes ++ ·))
      (earlier.flatMap events ++ more) := by
  induction hearlier with
  | nil =>
    have hsame : result.map (([] : List (String × Nat)) ++ ·) = result := by
      cases result <;> rfl
    rwa [hsame]
  | @cons unit probe earlier probes hunit hearlier ih =>
    have hprobe := hasked.probe unit
    rw [hunit] at hprobe
    rw [List.flatMap_cons, List.append_assoc, List.cons_append, probeAll]
    refine hprobe.bind_ok (.after_log ?_)
    cases result with
    | error e => exact ih.bind_error
    | ok found =>
      rw [← List.append_nil (earlier.flatMap events ++ more)]
      exact ih.bind_ok (Program.constant_pure _)

/-- Looking for the active unit goes through those that answer otherwise. -/
theorem Asked.firstActive_append {earlier rest : List String} {probes : List (String × Nat)}
    (hearlier : List.Forall₂ (ctx.Answered answer) earlier probes)
    (hother : ∀ probe ∈ probes, probe.2 ≠ Topology.active)
    {result : Except CheckError (Option String)} {more : Trace}
    (hrest : Constant setting (ctx.firstActive rest) result more) :
    Constant setting (ctx.firstActive (earlier ++ rest)) result
      (earlier.flatMap events ++ more) := by
  induction hearlier with
  | nil => exact hrest
  | @cons unit probe earlier probes hunit hearlier ih =>
    have hprobe := hasked.probe unit
    rw [hunit] at hprobe
    rw [List.flatMap_cons, List.append_assoc, List.cons_append, firstActive]
    refine hprobe.bind_ok ?_
    dsimp only
    rw [if_neg (hother probe List.mem_cons_self)]
    exact (ih fun probe' hprobe' => hother probe' (List.mem_cons_of_mem probe hprobe')).after_log

/-- It ends with the first unit that answers 200. -/
theorem Asked.firstActive_hit {unit place : String} (rest : List String)
    (hunit : ctx.Answered answer unit (place, Topology.active)) :
    Constant setting (ctx.firstActive (unit :: rest)) (.ok (some (ctx.unitUrl place)))
      (events unit) := by
  have hprobe := hasked.probe unit
  rw [hunit] at hprobe
  rw [firstActive, ← List.append_nil (events unit)]
  refine hprobe.bind_ok ?_
  dsimp only
  rw [if_pos rfl]
  exact (Program.constant_pure _).after_log

/-- Both end with a unit that fails. -/
theorem Asked.fail {unit : String} {e : CheckError} (rest : List String)
    (hunit : answer unit = .error e) :
    Constant setting (ctx.probeAll (unit :: rest)) (.error e) (events unit) ∧
      Constant setting (ctx.firstActive (unit :: rest)) (.error e) (events unit) := by
  have hprobe := hasked.probe unit
  rw [hunit] at hprobe
  rw [probeAll, firstActive]
  exact ⟨hprobe.bind_error, hprobe.bind_error⟩

/-- No request to these units was answered with 200. -/
theorem Asked.unsuccessful {row : List String} {probes : List (String × Nat)}
    (hrow : List.Forall₂ (ctx.Answered answer) row probes)
    (hother : ∀ probe ∈ probes, probe.2 ≠ Topology.active) :
    ∀ request ∈ Trace.requests (row.flatMap events), ¬ Http.Succeeds reply request := by
  induction hrow with
  | nil => simp [Trace.requests]
  | @cons unit probe row probes hunit hrow ih =>
    intro request hrequest
    rw [List.flatMap_cons, Trace.requests_append] at hrequest
    rcases List.mem_append.mp hrequest with hhead | hrest
    · obtain ⟨sent, hsent, hsucceeds⟩ := hasked.answered unit _ _ _ hunit
      obtain rfl : request = sent := by simpa [hsent] using hhead
      exact fun h => hother probe List.mem_cons_self (hsucceeds.mp h)
    · exact ih (fun probe' hprobe' => hother probe' (List.mem_cons_of_mem probe hprobe'))
        request hrest

omit hasked in
/-- A row of units that answer is cut at the first active one, if there is one. -/
theorem Answered.cut {row : List String} {probes : List (String × Nat)}
    (hrow : List.Forall₂ (ctx.Answered answer) row probes) :
    ((∀ probe ∈ probes, probe.2 ≠ Topology.active) ∧
      probes.find? (fun probe => probe.2 = Topology.active) = none) ∨
    ∃ earlier unit later before place,
      row = earlier ++ unit :: later ∧ List.Forall₂ (ctx.Answered answer) earlier before ∧
      (∀ probe ∈ before, probe.2 ≠ Topology.active) ∧
      ctx.Answered answer unit (place, Topology.active) ∧
      probes.find? (fun probe => probe.2 = Topology.active) = some (place, Topology.active) := by
  induction hrow with
  | nil => exact .inl ⟨by simp, rfl⟩
  | @cons unit probe row probes hunit hrow ih =>
    obtain ⟨place, status⟩ := probe
    by_cases hactive : status = Topology.active
    · subst hactive
      exact .inr ⟨[], unit, row, [], place, rfl, .nil, by simp, hunit, by simp⟩
    · rcases ih with ⟨hother, hnone⟩ | ⟨earlier, unit', later, before, place', rfl, hearlier,
        hbefore, hunit', hfound⟩
      · refine .inl ⟨?_, by simp [hactive, hnone]⟩
        intro probe hprobe
        rcases List.mem_cons.mp hprobe with rfl | hrest
        · exact hactive
        · exact hother probe hrest
      · refine .inr ⟨unit :: earlier, unit', later, (place, status) :: before, place', rfl,
          .cons hunit hearlier, ?_, hunit', by simp [hactive, hfound]⟩
        intro probe hprobe
        rcases List.mem_cons.mp hprobe with rfl | hrest
        · exact hactive
        · exact hbefore probe hrest

end Rows

/-- A list up to the first of a kind, or the whole list if there is none. -/
def UpToFirst {α : Type} (kind : α → Prop) (whole part : List α) : Prop :=
  (part = whole ∧ ∀ a ∈ whole, ¬ kind a) ∨
    ∃ earlier a later, part = earlier ++ [a] ∧ whole = earlier ++ a :: later ∧ kind a ∧
      ∀ b ∈ earlier, ¬ kind b

/-- What looking for the active unit comes to, from the units that answer and what is there behind
them. -/
def foundAmong (ctx : Context) (probes : List (String × Nat))
    (otherwise : Except CheckError (Option String)) : Except CheckError (Option String) :=
  match probes.find? fun probe => probe.2 = Topology.active with
  | some probe => .ok (some (ctx.unitUrl probe.1))
  | none => otherwise

/-- Behind units that answer, both ways go on alike, unless one of the units is active. -/
theorem Asked.agree {answer : Answers} {events : String → Trace}
    (hasked : ctx.Asked setting reply answer events) {row tail : List String}
    {probes : List (String × Nat)} (hrow : List.Forall₂ (ctx.Answered answer) row probes)
    {rest : Except CheckError (List (String × Nat))} {otherwise : Except CheckError (Option String)}
    {more : Trace} (hall : Constant setting (ctx.probeAll tail) rest more)
    (hfirst : Constant setting (ctx.firstActive tail) otherwise more)
    (hmore : ∀ request ∈ Trace.requests more, ¬ Http.Succeeds reply request) :
    ∃ whole part,
      Constant setting (ctx.probeAll (row ++ tail)) (rest.map (probes ++ ·)) whole ∧
      Constant setting (ctx.firstActive (row ++ tail)) (ctx.foundAmong probes otherwise) part ∧
      UpToFirst (Http.Succeeds reply) (Trace.requests whole) (Trace.requests part) := by
  refine ⟨row.flatMap events ++ more, ?_⟩
  rcases Answered.cut hrow with ⟨hother, hnone⟩ | ⟨earlier, unit, later, before, place, rfl,
    hearlier, hbefore, hunit, hfound⟩
  · refine ⟨row.flatMap events ++ more, hasked.probeAll_append hrow hall, ?_, .inl ⟨rfl, ?_⟩⟩
    · rw [foundAmong, hnone]
      exact hasked.firstActive_append hrow hother hfirst
    · intro request hrequest
      rw [Trace.requests_append] at hrequest
      rcases List.mem_append.mp hrequest with h | h
      · exact hasked.unsuccessful hrow hother request h
      · exact hmore request h
  · obtain ⟨request, hsent, hsucceeds⟩ := hasked.answered unit _ _ _ hunit
    refine ⟨earlier.flatMap events ++ events unit, hasked.probeAll_append hrow hall, ?_,
      .inr ⟨Trace.requests (earlier.flatMap events), request,
        Trace.requests (later.flatMap events ++ more), ?_, ?_, hsucceeds.mpr rfl,
        hasked.unsuccessful hearlier hbefore⟩⟩
    · rw [foundAmong, hfound, List.append_assoc, List.cons_append]
      exact hasked.firstActive_append hearlier hbefore (hasked.firstActive_hit _ hunit)
    · rw [Trace.requests_append, hsent]
    · rw [List.flatMap_append, List.flatMap_cons]
      simp only [Trace.requests_append, hsent, List.append_assoc, List.cons_append, List.nil_append]

/-- A unit answers in this setting, from an address with a status. -/
def Responds (ctx : Context) (setting : Setting) (unit : String) (probe : String × Nat) : Prop :=
  ∀ world, ((ctx.probe unit).start setting world).1 =
    .ok (probe.1, ctx.unitUrl probe.1, probe.2)

/-- How a look at all units ends early: the units cannot be listed, or one of them cannot be asked
after others that answer. What looking for the active unit comes to is told for each. -/
inductive EndsEarly (ctx : Context) (setting : Setting)
    (units : Except OrchestratorError (List String)) (e : CheckError) :
    Except CheckError (Option String) → Prop where
  | unlisted (fault : OrchestratorError) (hunits : units = .error fault)
      (herror : e = .orchestrator fault) : EndsEarly ctx setting units e (.error e)
  | unasked (earlier : List String) (failing : String) (later : List String)
      (probes : List (String × Nat)) (hunits : units = .ok (earlier ++ failing :: later))
      (hearlier : List.Forall₂ (ctx.Responds setting) earlier probes)
      (hfailing : ∀ world, ((ctx.probe failing).start setting world).1 = .error e) :
      EndsEarly ctx setting units e (ctx.foundAmong probes (.error e))

/-- What the two ways come to. -/
structure Agree (ctx : Context) (setting : Setting) (units : Except OrchestratorError (List String))
    (probed : Except CheckError Topology) (found : Except CheckError (Option String)) : Prop where
  ok : ∀ t, probed = .ok t → found = .ok ((t.addresses Topology.active).head?.map ctx.unitUrl)
  error : ∀ e, probed = .error e → EndsEarly ctx setting units e found

/-- Among units none of which failed to answer, the first active one is found. -/
theorem foundAmong_eq (ctx : Context) (probes : List (String × Nat)) :
    ctx.foundAmong probes (.ok none) =
      .ok (((Topology.ofProbes probes).addresses Topology.active).head?.map ctx.unitUrl) := by
  rw [foundAmong, Topology.addresses_ofProbes, List.head?_map, List.head?_filter]
  cases probes.find? fun probe => probe.2 = Topology.active <;> rfl

/-- Units that were asked one after the other responded as the answers say. -/
theorem Asked.responds {answer : Answers} {events : String → Trace}
    (hasked : ctx.Asked setting reply answer events) {row : List String}
    {probes : List (String × Nat)} (hrow : List.Forall₂ (ctx.Answered answer) row probes) :
    List.Forall₂ (ctx.Responds setting) row probes :=
  hrow.imp fun unit _ hunit world => ((hasked.probe unit).result_eq world).trans hunit

/-- Both ways to look for the active unit, side by side: what the longer one found tells what the
shorter one finds, and the requests of the shorter one are the first of the longer one's. -/
theorem Still.agree (h : ctx.Still setting units address reply) :
    ∃ probed found whole part,
      Constant setting ctx.probeUnits probed whole ∧ Constant setting ctx.findActive found part ∧
      ctx.Agree setting units probed found ∧
      UpToFirst (Http.Succeeds reply) (Trace.requests whole) (Trace.requests part) := by
  obtain ⟨answer, events, hasked⟩ := h.asked
  have hunits := consult_constant h.units
  cases hlist : units with
  | error fault =>
    rw [hlist] at hunits
    refine ⟨_, _, _, _, hunits.bind_error, hunits.bind_error, ⟨by simp, ?_⟩,
      .inl ⟨rfl, by simp [Trace.requests]⟩⟩
    intro e he
    obtain rfl : CheckError.orchestrator fault = e := Except.error.inj he
    exact .unlisted fault rfl rfl
  | ok row =>
    rw [hlist] at hunits
    have hcalled : ∀ trace : Trace,
        Trace.requests ([.called (.units ctx.application)] ++ trace) = Trace.requests trace :=
      fun _ => rfl
    -- both ways ask alike up to the first unit that fails, if there is one
    rcases hasked.row row with ⟨probes, hrow⟩ | ⟨earlier, failing, later, probes, e, rfl,
      hearlier, hfailing⟩
    · have hall : Constant setting (ctx.probeAll []) (.ok []) [] := Program.constant_pure []
      have hfirst : Constant setting (ctx.firstActive []) (.ok none) [] :=
        Program.constant_pure none
      obtain ⟨whole, part, hwhole, hpart, hrequests⟩ :=
        hasked.agree hrow hall hfirst (by simp [Trace.requests])
      rw [List.append_nil] at hwhole hpart
      have hwhole' : Constant setting (ctx.probeAll row) (.ok probes) whole := by
        simpa [Except.map] using hwhole
      refine ⟨.ok (.ofProbes probes), _, _, _,
        hunits.bind_ok (hwhole'.bind_ok (Program.constant_pure _)), hunits.bind_ok hpart,
        ⟨?_, by simp⟩, ?_⟩
      · intro t ht
        obtain rfl : Topology.ofProbes probes = t := Except.ok.inj ht
        exact foundAmong_eq ctx probes
      · rw [List.append_nil, hcalled, hcalled]
        exact hrequests
    · obtain ⟨hall, hfirst⟩ := hasked.fail later hfailing
      obtain ⟨whole, part, hwhole, hpart, hrequests⟩ := hasked.agree hearlier hall hfirst
        (hasked.failed failing e hfailing)
      have hwhole' : Constant setting (ctx.probeAll (earlier ++ failing :: later)) (.error e)
          whole := hwhole
      refine ⟨.error e, _, _, _, hunits.bind_ok hwhole'.bind_error, hunits.bind_ok hpart,
        ⟨by simp, ?_⟩, ?_⟩
      · intro e' he'
        obtain rfl : e = e' := Except.error.inj he'
        exact .unasked earlier failing later probes rfl (hasked.responds hearlier)
          fun world => ((hasked.probe failing).result_eq world).trans hfailing
      · rw [hcalled, hcalled]
        exact hrequests

end Context

namespace Context

variable {ctx : Context} {setting : Setting} {world finish : World} {t : Topology}

/-- A healthy topology has an active unit. -/
theorem start_verifyTopology (h : ctx.verifyTopology.start setting world = (.ok t, finish)) :
    ctx.probeUnits.start setting world = (.ok t, finish) ∧
      ∃ place, (t.addresses Topology.active).head? = some place := by
  obtain ⟨found, after, hprobe, hrest⟩ := Program.start_bind_eq_ok h
  cases hhealthy : found.isHealthy with
  | false => simp [Topology.verify, hhealthy] at hrest
  | true =>
    obtain ⟨rfl, rfl⟩ : found = t ∧ after = finish := by
      simpa [Topology.verify, hhealthy] using hrest
    refine ⟨hprobe, ?_⟩
    have hone : (found.addresses Topology.active).length = 1 := by
      simp only [Topology.isHealthy, Bool.and_eq_true, beq_iff_eq] at hhealthy
      exact hhealthy.1
    obtain ⟨place, hplace⟩ := List.length_eq_one_iff.mp hone
    exact ⟨place, by rw [hplace]; rfl⟩

/-- Where units, addresses and answers stay as they are, looking at all units and looking for the
active one agree: on the unit, which is also the one that is reported, on the requests up to the
first answer of 200, and on what comes of a unit that cannot be asked. A process that reports on the
units ends with code zero exactly if it reports them as healthy. -/
theorem active_ways_agree (ctx : Context) (setting : Setting)
    (units : Except OrchestratorError (List String))
    (address : String → Except OrchestratorError String) (reply : Http.Url → Delivery)
    (h : ctx.Still setting units address reply) :
    (∀ world world' t, (ctx.probeUnits.start setting world).1 = .ok t →
      (ctx.findActive.start setting world').1 =
        .ok ((t.addresses Topology.active).head?.map ctx.unitUrl) ∧
      (ctx.findActive.start setting world').1 = .ok (Command.probeReport ctx t).active) ∧
    (∀ world world' t, (ctx.verifyTopology.start setting world).1 = .ok t →
      ∃ url, (ctx.findActive.start setting world').1 = .ok (some url)) ∧
    (∀ world world', UpToFirst (Http.Succeeds reply) (ctx.probeUnits.requestsIn setting world)
      (ctx.findActive.requestsIn setting world')) ∧
    (∀ world world' e, (ctx.probeUnits.start setting world).1 = .error e →
      EndsEarly ctx setting units e (ctx.findActive.start setting world').1) ∧
    ∀ (arguments : List String) (env : Environment) (host : Juju.Client → Juju.Host)
      (outer : Setting) (start : World) (line : CommandLine),
      CommandLine.ofArguments arguments = .ok line → line.command = .probe →
      let exit := (CommandLine.process arguments env host outer start).1
      (exit.stdout = "" ∧ exit.code ≠ 0) ∨
        ∃ config ctx built t finish,
          let client := Juju.Client.ofConfig config
          let inner := client.inside (host client) outer
          (Context.build config).start inner start = (.ok ctx, built) ∧
          ctx.probeUnits.start inner built = (.ok t, finish) ∧
          exit.ReportsUnits line.output (CommandLine.wantsColour env)
            (Command.probeReport ctx t) := by
  obtain ⟨probed, found, whole, part, hprobed, hfound, hagree, hrequests⟩ := h.agree
  refine ⟨?_, ?_, ?_, ?_, ?_⟩
  · intro world world' t ht
    rw [hprobed.result_eq] at ht
    rw [hfound.result_eq]
    exact ⟨hagree.ok t ht, hagree.ok t ht⟩
  · intro world world' t ht
    obtain ⟨hprobe, place, hplace⟩ := start_verifyTopology (Prod.ext ht rfl)
    have hresult : (ctx.probeUnits.start setting world).1 = .ok t := by rw [hprobe]
    rw [hprobed.result_eq] at hresult
    refine ⟨ctx.unitUrl place, ?_⟩
    rw [hfound.result_eq, hagree.ok t hresult, hplace]
    rfl
  · intro world world'
    rw [hprobed.requestsIn_eq, hfound.requestsIn_eq]
    exact hrequests
  · intro world world' e he
    rw [hprobed.result_eq] at he
    rw [hfound.result_eq]
    exact hagree.error e he
  · intro arguments env host outer start line hline hcommand exit
    rcases CommandLine.process_probe hline hcommand with hnothing | ⟨config, ctx, built, t, hreport⟩
    · exact .inl hnothing
    · exact .inr ⟨config, ctx, built, t, _, hreport⟩

def bothActive : Setting :=
  { offline with
    orchestrator := fun world call => (match call with
      | .units _ => .ok ["ceph-dashboard/0", "ceph-dashboard/1"]
      | .address unit => .ok (if unit = "ceph-dashboard/0" then "::1" else "::2")
      | _ => .error (.unitNotFound ""), world.disk)
    network := fun _ _ _ => .answered ⟨200, none, ""⟩ }

/-- Of two active units the first is found, though the topology is not healthy. -/
theorem active_ways_agree_both :
    (markedSuite.findActive.start bothActive markedFile).1 = .ok (some "https://[::1]:8443") ∧
      (Topology.ofProbes [("::1", 200), ("::2", 200)]).isHealthy = false := by
  have hagree := active_ways_agree markedSuite bothActive
    (.ok ["ceph-dashboard/0", "ceph-dashboard/1"])
    (fun unit => .ok (if unit = "ceph-dashboard/0" then "::1" else "::2"))
    (fun _ => .answered ⟨200, none, ""⟩)
    ⟨fun _ => rfl, fun _ _ => rfl, fun _ _ _ => rfl⟩
  have hfound := (hagree.1 markedFile markedFile
    (.ofProbes [("::1", 200), ("::2", 200)]) (by decide +kernel)).1
  exact ⟨by rw [hfound]; decide +kernel, by decide⟩

end Context

end DashboardCheck
