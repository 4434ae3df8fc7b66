import DashboardCheck.Proofs.Check.Steady

/-!
# Checks that make users

A check that makes a user makes it under a new name. Where each user can be made once, and all are
given a password or none is, that goes the same way each time; the name shows in one complaint only.
-/
namespace DashboardCheck.Context

open Program (Gives Settled Keeps)

variable {ctx : Context} {m : Mock} {replies : Http.Replies} {fault : Entry → Option FileError}
  {setting : Setting} {world : World}

def userAction (ctx : Context) (name : String) : ActionCall :=
  ⟨ctx.application, addUserAction,
    Dict.ofList [("username", name), ("role", ctx.config.dashboard.userRole)]⟩

@[simp] theorem userAction_username (name : String) : (ctx.userAction name).username = name := by
  have hname : Dict.get? (Dict.ofList [("username", name),
      ("role", ctx.config.dashboard.userRole)]) "username" = some name := by
    rw [Dict.ofList, List.foldl_cons, List.foldl_cons, List.foldl_nil,
      Dict.get?_insert_other _ _ (by simp), Dict.get?_insert_self]
  rw [ActionCall.username, userAction, hname]
  rfl

theorem username_inj (h : ctx.Steady m replies fault setting world.trace) {n n' : Nat} :
    ctx.username setting n = ctx.username setting n' ↔ n = n' := by
  constructor
  · intro heq
    exact h.distinct n n' (String.append_right_inj _ |>.mp heq)
  · rintro rfl
    rfl

def asked (ctx : Context) (name : String) (world : World) : World :=
  world.after [.called (.action ctx.application addUserAction (ctx.userAction name).params)]

/-- What making a user comes to in a steady setting, and what it leaves behind. -/
theorem start_createUser (h : ctx.Steady m replies fault setting world.trace) (name : String) :
    (ctx.createUser name).start setting world =
      ((m.require ctx.application (.ok ((m.since world.trace).act (ctx.userAction name)))).mapError
        .orchestrator, ctx.asked name world) := by
  rw [createUser, start_createUser_eq, start_consult h.orchestrator _ (by simp), Mock.answer,
    Mock.require, Mock.require, h.agrees.knows]
  rfl

theorem start_createUser_known (h : ctx.Steady m replies fault setting world.trace)
    (hknows : m.knows ctx.application = true) (name : String) :
    (ctx.createUser name).start setting world =
      (.ok ((m.since world.trace).act (ctx.userAction name)), ctx.asked name world) := by
  rw [start_createUser h, Mock.require, hknows, if_pos rfl]
  rfl

/-- The recorder notes the action if it knows the application. -/
theorem asked_actions (name : String) :
    (m.since (ctx.asked name world).trace).actions =
      (m.since world.trace).actions ++
        if (m.since world.trace).knows ctx.application then [ctx.userAction name] else [] := by
  rw [asked, World.after_trace, Mock.since_called, Mock.after]
  split
  · rfl
  · simp

/-- Making a user under a name that was made up keeps a setting steady. -/
theorem Steady.asked (h : ctx.Steady m replies fault setting world.trace) {n : Nat}
    (hn : n < world.trace.namesMade) :
    ctx.Steady m replies fault setting (ctx.asked (ctx.username setting n) world).trace := by
  refine { h with agrees := ?_, unused := ?_ }
  · rw [Context.asked, World.after_trace, Mock.since_called]
    exact (Mock.after_agrees _ (.action _ _ _) trivial).trans h.agrees
  · intro n' hn' action haction
    rw [Context.asked, World.after_trace, Trace.namesMade_append_called] at hn'
    rw [asked_actions, List.mem_append] at haction
    rcases haction with hold | hnew
    · exact h.unused n' hn' action hold
    · have hne : n ≠ n' := by omega
      rw [List.mem_ite_nil_right, List.mem_singleton] at hnew
      rw [hnew.2, userAction_username, Ne, username_inj h]
      exact hne

/-- A user that was asked for is there. -/
theorem mem_asked (h : ctx.Steady m replies fault setting world.trace)
    (hknows : m.knows ctx.application = true) (name : String) :
    ctx.userAction name ∈ (m.since (ctx.asked name world).trace).actions := by
  rw [asked_actions, h.agrees.knows, hknows]
  simp

def withUser {β : Type} (ctx : Context) (scenario : String)
    (go : String → String → Program CheckError β) : Program CheckError β := do
  let name ← randomUsername ctx.config.dashboard.usernamePrefix
  let outcome ← ctx.createUser name
  let password ← Program.ofExcept (passwordOf outcome scenario)
  go name password

/-- The check, as what is done with a user that was made. -/
theorem checkCreateUser_eq :
    ctx.checkCreateUser = ctx.withUser "create_user" (fun name _ => do
      let second ← ctx.createUser name
      if second.status ≠ .failed then
        throw (.assertion "create_user"
          s!"duplicate add-user for '{name}' expected failed, got {second.status.text}")) := rfl

theorem accessDashboard_eq (baseUrl : String) :
    ctx.accessDashboard baseUrl = ctx.withUser "access_dashboard" (fun name password => do
      let url := authUrl baseUrl
      let arrival ← ctx.http.postJson url (credentials name password) apiMediaType
        "application/json"
      let status := arrival.response.status
      if status ≠ 201 then
        throw (.assertion "access_dashboard"
          s!"login as '{name}' at {url} expected 201 Created, got {Http.statusText status}")
      Program.log (loginLine name url)) := rfl

def named (setting : Setting) (world : World) : World :=
  world.after [.named (setting.name world.trace.namesMade)]

/-- A user is made under the next name that is made up, and the rest goes on with both. -/
theorem start_withUser {β : Type} (scenario : String)
    (go : String → String → Program CheckError β) :
    (ctx.withUser scenario go).start setting world =
      (do let outcome ← ctx.createUser (ctx.username setting world.trace.namesMade)
          let password ← Program.ofExcept (passwordOf outcome scenario)
          go (ctx.username setting world.trace.namesMade) password).start setting
        (Context.named setting world) := rfl

theorem Steady.named (h : ctx.Steady m replies fault setting world.trace) :
    ctx.Steady m replies fault setting (Context.named setting world).trace := by
  refine { h with agrees := ?_, unused := ?_ }
  · rw [Context.named, World.after_trace, Mock.since_named]
    exact h.agrees
  · intro n hn
    rw [Context.named, World.after_trace, Trace.namesMade_append_named] at hn
    rw [Context.named, World.after_trace, Mock.since_named]
    exact h.unused n (by omega)

/-- Nobody has the name that was made up. -/
theorem named_new (h : ctx.Steady m replies fault setting world.trace) :
    ∀ action ∈ (m.since (Context.named setting world).trace).actions,
      action.username ≠ ctx.username setting world.trace.namesMade := by
  rw [Context.named, World.after_trace, Mock.since_named]
  exact h.unused _ (Nat.le_refl _)

/-- Either there is always the same trouble with making a user, or it always goes well and making
the user again does not. -/
theorem withUser_alike (honce : m.CompletesOnce) (halike : m.PasswordsAlike) (scenario : String) :
    (∃ e, ∀ (β : Type) (go : String → String → Program CheckError β),
      Gives (ctx.Steady m replies fault) (ctx.withUser scenario go) (.error e)) ∨
    ∀ setting world, ctx.Steady m replies fault setting world.trace →
      ∃ n password made, ctx.Steady m replies fault setting made.trace ∧
        (∀ (β : Type) (go : String → String → Program CheckError β),
          (ctx.withUser scenario go).start setting world =
            (go (ctx.username setting n) password).start setting made) ∧
        ∃ outcome finish, (ctx.createUser (ctx.username setting n)).start setting made =
          (.ok outcome, finish) ∧ outcome.status = .failed ∧
          ctx.Steady m replies fault setting finish.trace := by
  cases hknows : m.knows ctx.application with
  | false =>
    refine .inl ⟨.orchestrator (.applicationNotFound ctx.application), fun β go => ?_⟩
    intro setting world h
    refine ⟨_, ?_, h.named.asked (n := world.trace.namesMade) (by simp [named])⟩
    rw [start_withUser]
    refine Program.start_bind_error setting _ ?_
    rw [start_createUser h.named, Mock.require, hknows, if_neg Bool.false_ne_true]
    rfl
  | true =>
    obtain ⟨given, hgiven⟩ := Mock.act_alike honce halike
    -- the user is new, so the action completes, with a password as for all users
    have hfirst : ∀ {setting : Setting} {world : World},
        ctx.Steady m replies fault setting world.trace →
        let user := ctx.userAction (ctx.username setting world.trace.namesMade)
        let outcome := (m.since (named setting world).trace).act user
        outcome.status = .completed ∧ outcome.hasPassword = given := by
      intro setting world h
      refine (hgiven _ h.named.agrees _).1 ?_
      rw [userAction_username]
      exact named_new h
    cases given with
    | false =>
      refine .inl ⟨.assertion scenario "add-user completed without a password", fun β go => ?_⟩
      intro setting world h
      obtain ⟨hstatus, hpassword⟩ := hfirst h
      refine ⟨_, ?_, h.named.asked (n := world.trace.namesMade) (by simp [named])⟩
      rw [start_withUser, Program.start_bind_ok setting _ (start_createUser_known h.named hknows _),
        passwordOf_missing scenario hstatus hpassword]
      rfl
    | true =>
      refine .inr fun setting world h => ?_
      let n := world.trace.namesMade
      let made := ctx.asked (ctx.username setting n) (named setting world)
      have hn : n < (named setting world).trace.namesMade := by simp [named, n]
      have hmade : ctx.Steady m replies fault setting made.trace := h.named.asked hn
      obtain ⟨hstatus, hpassword⟩ := hfirst h
      obtain ⟨password, hgot⟩ := passwordOf_given scenario hstatus hpassword
      refine ⟨n, password, made, hmade, fun β go => ?_, _, _,
        start_createUser_known hmade hknows _, ?_, hmade.asked (by simpa [made, asked] using hn)⟩
      · rw [start_withUser,
          Program.start_bind_ok setting _ (start_createUser_known h.named hknows _), hgot]
        rfl
      · have hthere := mem_asked h.named hknows (ctx.username setting n)
        exact (hgiven _ hmade.agrees _).2 ⟨_, hthere, rfl⟩ rfl

theorem checkCreateUser_settled (honce : m.CompletesOnce) (halike : m.PasswordsAlike) :
    Settled (ctx.Steady m replies fault) ctx.checkCreateUser := by
  rw [checkCreateUser_eq]
  rcases withUser_alike honce halike "create_user" with ⟨e, hnone⟩ | hmade
  · exact (hnone _ _).settled
  · refine ⟨.ok (), fun setting world h => ?_⟩
    obtain ⟨n, password, made, -, hgo, outcome, finish, hagain, hstatus, hfinish⟩ :=
      hmade setting world h
    refine ⟨finish, ?_, hfinish⟩
    rw [hgo, Program.start_bind_ok setting made hagain, hstatus]
    rfl

/-- A program that always fails with one message, up to the name of the user in it. -/
def FailsNaming {α : Type} (ctx : Context) (m : Mock) (replies : Http.Replies)
    (fault : Entry → Option FileError) (p : Program CheckError α) : Prop :=
  ∃ scenario before after, ∀ setting world, ctx.Steady m replies fault setting world.trace →
    ∃ n finish, p.start setting world =
        (.error (.assertion scenario (before ++ ctx.username setting n ++ after)), finish) ∧
      ctx.Steady m replies fault setting finish.trace

/-- A program that fails with its message never comes to what would follow. -/
theorem FailsNaming.bind {α β : Type} {p : Program CheckError α} {f : α → Program CheckError β}
    (h : ctx.FailsNaming m replies fault p) : ctx.FailsNaming m replies fault (p >>= f) := by
  obtain ⟨scenario, before, after, h⟩ := h
  refine ⟨scenario, before, after, fun setting world hworld => ?_⟩
  obtain ⟨n, finish, hstart, hfinish⟩ := h setting world hworld
  exact ⟨n, finish, Program.start_bind_error setting world hstart, hfinish⟩

/-- A step with a fixed result does not hide the failure behind it. -/
theorem FailsNaming.after_ok {α β : Type} {p : Program CheckError α}
    {f : α → Program CheckError β} {a : α} (hp : Gives (ctx.Steady m replies fault) p (.ok a))
    (h : ctx.FailsNaming m replies fault (f a)) : ctx.FailsNaming m replies fault (p >>= f) := by
  obtain ⟨scenario, before, after, h⟩ := h
  refine ⟨scenario, before, after, fun setting world hworld => ?_⟩
  obtain ⟨next, hstart, hnext⟩ := hp setting world hworld
  obtain ⟨n, finish, hrest, hfinish⟩ := h setting next hnext
  refine ⟨n, finish, ?_, hfinish⟩
  rw [Program.start_bind_ok setting world hstart, hrest]

/-- Logging in is settled, but for the name of the user in the complaint about a wrong status. -/
theorem accessDashboard_alike (honce : m.CompletesOnce) (halike : m.PasswordsAlike)
    (baseUrl : String) :
    Settled (ctx.Steady m replies fault) (ctx.accessDashboard baseUrl) ∨
      ctx.FailsNaming m replies fault (ctx.accessDashboard baseUrl) := by
  rw [accessDashboard_eq]
  rcases withUser_alike honce halike "access_dashboard" with ⟨e, hnone⟩ | hmade
  · exact .inl (hnone _ _).settled
  · obtain ⟨result, hpost⟩ := ctx.http.postJson_gives (memoryless : Http.Memoryless replies
      (ctx.Steady m replies fault)) (authUrl baseUrl) apiMediaType "application/json"
    cases result with
    | error e =>
      refine .inl ⟨.error e, fun setting world h => ?_⟩
      obtain ⟨n, password, made, hsteady, hgo, -⟩ := hmade setting world h
      obtain ⟨finish, harrival, hfinish⟩ := hpost _ setting made hsteady
      exact ⟨finish, (hgo _ _).trans (Program.start_bind_error setting made harrival), hfinish⟩
    | ok arrival =>
      by_cases hstatus : arrival.response.status ≠ 201
      · refine .inr ⟨"access_dashboard", "login as '", "' at " ++ authUrl baseUrl ++
          " expected 201 Created, got " ++ Http.statusText arrival.response.status,
          fun setting world h => ?_⟩
        obtain ⟨n, password, made, hsteady, hgo, -⟩ := hmade setting world h
        obtain ⟨finish, harrival, hfinish⟩ := hpost _ setting made hsteady
        refine ⟨n, finish, (hgo _ _).trans ((Program.start_bind_ok setting made harrival).trans ?_),
          hfinish⟩
        dsimp only
        rw [if_pos hstatus, Program.start_bind, Program.start_throw]
        simp [toString, String.append_assoc]
      · refine .inl ⟨.ok (), fun setting world h => ?_⟩
        obtain ⟨n, password, made, hsteady, hgo, -⟩ := hmade setting world h
        obtain ⟨finish, harrival, hfinish⟩ := hpost _ setting made hsteady
        refine ⟨finish, (hgo _ _).trans ((Program.start_bind_ok setting made harrival).trans ?_),
          hfinish⟩
        dsimp only
        rw [if_neg hstatus]
        rfl

theorem asked_namesMade (name : String) :
    (ctx.asked name world).trace.namesMade = world.trace.namesMade := by
  rw [asked, World.after_trace, Trace.namesMade_append_called]

/-- What keeps a setting steady with every user keeps it so with a new one. -/
theorem withUser_keeps {β : Type} (scenario : String)
    {go : String → String → Program CheckError β}
    (hgo : ∀ setting world n password, ctx.Steady m replies fault setting world.trace →
      n < world.trace.namesMade → ctx.Steady m replies fault setting
        ((go (ctx.username setting n) password).start setting world).2.trace) :
    Keeps (ctx.Steady m replies fault) (ctx.withUser scenario go) := by
  intro setting world h
  have hn : world.trace.namesMade < (named setting world).trace.namesMade := by simp [named]
  have hasked := h.named.asked hn
  rw [start_withUser, Program.start_bind, start_createUser h.named]
  generalize m.require ctx.application (.ok _) = answer
  cases answer with
  | error e => exact hasked
  | ok outcome =>
    simp only [Program.mapError_ok, Program.start_bind, Program.start_ofExcept]
    cases passwordOf outcome scenario with
    | error e => exact hasked
    | ok password => exact hgo setting _ _ password hasked (by rwa [asked_namesMade])

theorem checkCreateUser_keeps : Keeps (ctx.Steady m replies fault) ctx.checkCreateUser := by
  rw [checkCreateUser_eq]
  refine withUser_keeps _ fun setting world n password h hn => ?_
  have hasked := h.asked hn
  rw [Program.start_bind, start_createUser h]
  generalize m.require ctx.application (.ok _) = answer
  cases answer with
  | error e => exact hasked
  | ok second =>
    simp only [Program.mapError_ok]
    split <;> exact hasked

theorem accessDashboard_keeps (baseUrl : String) :
    Keeps (ctx.Steady m replies fault) (ctx.accessDashboard baseUrl) := by
  rw [accessDashboard_eq]
  refine withUser_keeps _ fun setting world n password h _ => ?_
  obtain ⟨result, hpost⟩ := ctx.http.postJson_gives (memoryless : Http.Memoryless replies
    (ctx.Steady m replies fault)) (authUrl baseUrl) apiMediaType "application/json"
  refine (hpost _).keeps.bind (fun arrival => ?_) setting world h
  dsimp only
  split
  · exact (Program.keeps_throw _).bind fun _ => Program.keeps_log _
  · exact Program.keeps_log _

end DashboardCheck.Context
