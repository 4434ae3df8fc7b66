import DashboardCheck.Proofs.Juju.Answers

/-!
# What the arguments of the tool tell

A call that needs the tool runs it once, and the call can be told from the arguments of that run,
whatever texts it brings along: which subcommand, which target, which parameters with which values.
Only the queries that the status answers all become one run. A separator ends the name before it, so
names must not contain theirs.
-/
namespace DashboardCheck

namespace Call

def IsStatusQuery : Call → Prop
  | .units _ => True
  | .address _ => True
  | .names => True
  | .series _ => True
  | _ => False

/-- No name contains the separator that ends it: `=` behind the names of parameters and settings,
and `:` behind the unit of a copy. -/
def IsSeparable : Call → Prop
  | .action _ _ params => ∀ param ∈ params, '=' ∉ param.1.toList
  | .configure _ changes => ∀ change ∈ changes, '=' ∉ change.1.toList
  | .copy unit _ _ => ':' ∉ unit.toList
  | _ => True

/-- Two calls ask for the same. The queries that the status answers count as one. -/
def SameRequest (call call' : Call) : Prop :=
  call = call' ∨ call.IsStatusQuery ∧ call'.IsStatusQuery

end Call

/-- A separator that the text before it does not contain tells where that text ends. -/
theorem append_separator_inj {sep : Char} {name name' value value' : String}
    (h : sep ∉ name.toList) (h' : sep ∉ name'.toList) :
    name ++ sep.toString ++ value = name' ++ sep.toString ++ value' ↔
      name = name' ∧ value = value' := by
  constructor
  · intro heq
    have hlists : name.toList ++ sep :: value.toList = name'.toList ++ sep :: value'.toList := by
      simpa using congrArg String.toList heq
    have hcut := congrArg (Text.cutFirst sep) hlists
    rw [Text.cutFirst_append _ h, Text.cutFirst_append _ h'] at hcut
    simpa [String.toList_inj] using hcut
  · rintro ⟨rfl, rfl⟩
    rfl

theorem leader_inj {application application' : String} :
    leader application = leader application' ↔ application = application' := by
  simp [leader]

namespace Juju

/-- Settings are told from their assignments, since the first equals sign ends the name. -/
theorem assignments_inj {settings settings' : Dict String}
    (h : ∀ setting ∈ settings, '=' ∉ setting.1.toList)
    (h' : ∀ setting ∈ settings', '=' ∉ setting.1.toList) :
    assignments settings = assignments settings' ↔ settings = settings' := by
  induction settings generalizing settings' with
  | nil => cases settings' <;> simp [assignments]
  | cons setting rest ih =>
    obtain ⟨name, value⟩ := setting
    obtain ⟨hname, hrest⟩ := List.forall_mem_cons.mp h
    cases settings' with
    | nil => simp [assignments]
    | cons setting' rest' =>
      obtain ⟨name', value'⟩ := setting'
      obtain ⟨hname', hrest'⟩ := List.forall_mem_cons.mp h'
      have hhead : name ++ "=" ++ value = name' ++ "=" ++ value' ↔
          name = name' ∧ value = value' := append_separator_inj hname hname'
      have htail := ih hrest hrest'
      simp only [assignments] at htail
      simp only [assignments, List.map_cons, List.cons.injEq, Prod.mk.injEq, hhead, htail]

theorem Client.arguments_inj {client : Client} {i j : Invocation} :
    client.arguments i = client.arguments j ↔ i = j := by
  obtain ⟨subcommand, rest⟩ := i
  obtain ⟨subcommand', rest'⟩ := j
  rw [arguments, arguments]
  cases client.model <;> simp

variable {call call' : Call}

theorem invocation_of_isStatusQuery (h : call.IsStatusQuery) :
    invocation call = statusInvocation := by
  cases call <;> first | rfl | exact absurd h id

theorem jsonFormat_ne_assignments (settings : Dict String) :
    jsonFormat ≠ assignments settings := by
  intro h
  cases settings with
  | nil => cases h
  | cons setting rest =>
    have hfirst : "--format" = setting.1 ++ "=" ++ setting.2 := (List.cons.inj h).1
    have hsign : '=' ∈ "--format".toList := by
      rw [hfirst]
      simp
    exact absurd hsign (by decide)

theorem isStatusQuery_of_subcommand (h : (invocation call).subcommand = "status") :
    call.IsStatusQuery := by
  cases call <;> first | trivial | simp [invocation] at h

/-- The calls behind one run ask for the same. -/
theorem sameRequest_of_invocation (hneeds : needsRun call = true) (hneeds' : needsRun call' = true)
    (hnames : call.IsSeparable) (hnames' : call'.IsSeparable)
    (h : invocation call = invocation call') : call.SameRequest call' := by
  have hsubcommand := congrArg Invocation.subcommand h
  by_cases hstatus : call.IsStatusQuery
  · rw [invocation_of_isStatusQuery hstatus] at hsubcommand
    exact .inr ⟨hstatus, isStatusQuery_of_subcommand hsubcommand.symm⟩
  · left
    cases call with
    | action application action params =>
      cases call' with
      | action application' action' params' =>
        obtain ⟨happlication, haction, hparams⟩ : application = application' ∧ action = action' ∧
            assignments params = assignments params' := by
          simpa [invocation, leader_inj] using h
        obtain rfl := (assignments_inj hnames hnames').mp hparams
        rw [happlication, haction]
      | _ => simp [invocation, statusInvocation] at hsubcommand
    | command application command =>
      cases call' with
      | command application' command' =>
        obtain ⟨rfl, rfl⟩ : application = application' ∧ command = command' := by
          simpa [invocation, leader_inj] using h
        rfl
      | _ => simp [invocation, statusInvocation] at hsubcommand
    | settings application =>
      cases call' with
      | settings application' =>
        obtain rfl : application = application' := by simpa [invocation] using h
        rfl
      -- both begin alike, but an assignment has an equals sign and the option has none
      | configure application' changes =>
        obtain ⟨-, hformat⟩ : application = application' ∧ jsonFormat = assignments changes := by
          simpa [invocation] using h
        exact absurd hformat (jsonFormat_ne_assignments changes)
      | _ => simp [invocation, statusInvocation] at hsubcommand
    | configure application changes =>
      cases call' with
      | settings application' =>
        obtain ⟨-, hformat⟩ : application = application' ∧ assignments changes = jsonFormat := by
          simpa [invocation] using h
        exact absurd hformat.symm (jsonFormat_ne_assignments changes)
      | configure application' changes' =>
        obtain ⟨happlication, hchanges⟩ : application = application' ∧
            assignments changes = assignments changes' := by
          simpa [invocation] using h
        rw [happlication, (assignments_inj hnames hnames').mp hchanges]
      | _ => simp [invocation, statusInvocation] at hsubcommand
    | copy unit remotePath localPath =>
      cases call' with
      | copy unit' remotePath' localPath' =>
        obtain ⟨hsource, rfl⟩ : unit ++ ":" ++ remotePath = unit' ++ ":" ++ remotePath' ∧
            localPath = localPath' := by
          simpa [invocation] using h
        obtain ⟨rfl, rfl⟩ := (append_separator_inj hnames hnames').mp hsource
        rfl
      | _ => simp [invocation, statusInvocation] at hsubcommand
    | _ => exact absurd trivial hstatus

/-- The arguments tell the request. -/
theorem invocation_eq_iff (hneeds : needsRun call = true) (hneeds' : needsRun call' = true)
    (hnames : call.IsSeparable) (hnames' : call'.IsSeparable) :
    invocation call = invocation call' ↔ call.SameRequest call' := by
  constructor
  · exact sameRequest_of_invocation hneeds hneeds' hnames hnames'
  · rintro (rfl | ⟨hstatus, hstatus'⟩)
    · rfl
    · rw [invocation_of_isStatusQuery hstatus, invocation_of_isStatusQuery hstatus']

def Host.noting (run : World → String → List String → Run)
    (note : String → List String → Disk → Disk) : Host :=
  fun world binary arguments => (run world binary arguments, note binary arguments world.disk)

/-- Asks for all of these, whatever the answers are. -/
def askAll : List Call → Program OrchestratorError Unit
  | [] => return ()
  | call :: rest => do
    let _ ← (Program.ask call).attempt
    askAll rest

section Noting

variable (client : Client) (run : World → String → List String → Run)
  (note : String → List String → Disk → Disk)

def Client.noteAll (runs : List (List String)) (disk : Disk) : Disk :=
  runs.foldl (fun disk arguments => note client.binary arguments disk) disk

/-- One call leaves the notes on its runs, of which there is one or none. -/
theorem Client.orchestrator_noting (world : World) (call : Call) :
    (client.orchestrator (.noting run note) world call).2 =
      client.noteAll note (client.runs [call]) world.disk := by
  cases hneeds : needsRun call with
  | true =>
    rw [orchestrator_run hneeds, runs, List.filter_cons_of_pos hneeds]
    rfl
  | false =>
    obtain ⟨application, rfl⟩ := eq_configure_nil hneeds
    rfl

/-- So a row of calls leaves the notes on the runs that they need, in order. -/
theorem Client.start_askAll (setting : Setting) (world : World) (calls : List Call) :
    ((askAll calls).start
        { setting with orchestrator := client.orchestrator (.noting run note) } world).2.disk =
      client.noteAll note (client.runs calls) world.disk := by
  induction calls generalizing world with
  | nil => rfl
  | cons call rest ih =>
    have hsplit : client.runs (call :: rest) = client.runs [call] ++ client.runs rest := by
      rw [← List.singleton_append, runs, List.filter_append, List.map_append, ← runs, ← runs]
    rw [askAll, Program.start_bind_ok _ _ (Program.start_attempt _ _ _), ih, Program.start_ask,
      hsplit]
    dsimp only
    rw [client.orchestrator_noting, noteAll, noteAll, noteAll, List.foldl_append]

end Noting

/-- Any call but a change of no settings is one run. -/
theorem Client.runs_singleton (client : Client)
    (h : ∀ application, call ≠ .configure application []) :
    client.runs [call] = [client.arguments (invocation call)] := by
  cases hneeds : needsRun call with
  | true =>
    rw [runs, List.filter_cons_of_pos hneeds]
    rfl
  | false =>
    obtain ⟨application, rfl⟩ := eq_configure_nil hneeds
    exact absurd rfl (h application)

/-- A value among these arguments is behind its name, in an argument of its own. -/
theorem assignments_append_cons (before after : Dict String) (name value : String) :
    assignments (before ++ (name, value) :: after) =
      assignments before ++ (name ++ "=" ++ value) :: assignments after := by
  simp [assignments]

/-- What stands before the arguments of a call. -/
def Client.lead (client : Client) (subcommand : String) : List String :=
  subcommand :: (match client.model with
    | some name => ["-m", name]
    | none => [])

theorem Client.arguments_eq (client : Client) (i : Invocation) :
    client.arguments i = client.lead i.subcommand ++ i.rest := by
  rw [arguments, lead]
  cases client.model <;> rfl

/-- The request can be told from the arguments of its run, whatever texts there are in it. A value
or a command has its place among the arguments and changes nothing around it. And the tool is run
once for each call, in order, but not for a change of no settings. -/
theorem Client.arguments_tell_request (client : Client) :
    (∀ call call' : Call, needsRun call = true → needsRun call' = true →
      call.IsSeparable → call'.IsSeparable →
      (client.arguments (invocation call) = client.arguments (invocation call') ↔
        call.SameRequest call')) ∧
    (∀ (application action name : String) (earlier later : Dict String), ∃ front back, ∀ value,
      client.arguments (invocation (.action application action
        (earlier ++ (name, value) :: later))) = front ++ (name ++ "=" ++ value) :: back) ∧
    (∀ (application name : String) (earlier later : Dict String), ∃ front back, ∀ value,
      client.arguments (invocation (.configure application
        (earlier ++ (name, value) :: later))) = front ++ (name ++ "=" ++ value) :: back) ∧
    (∀ application, ∃ front, ∀ command,
      client.arguments (invocation (.command application command)) = front ++ [command]) ∧
    (∀ run note (setting : Setting) world calls,
      ((askAll calls).start
          { setting with orchestrator := client.orchestrator (.noting run note) } world).2.disk =
        client.noteAll note (client.runs calls) world.disk) ∧
    (∀ call, (∀ application, call ≠ .configure application []) →
      client.runs [call] = [client.arguments (invocation call)]) ∧
    ∀ application, client.runs [.configure application []] = [] := by
  refine ⟨?_, ?_, ?_, ?_, ?_, ?_, ?_⟩
  · intro call call' hneeds hneeds' hnames hnames'
    rw [arguments_inj, invocation_eq_iff hneeds hneeds' hnames hnames']
  · intro application action name earlier later
    refine ⟨client.lead "run" ++ leader application :: action :: assignments earlier,
      assignments later ++ jsonFormat, fun value => ?_⟩
    rw [arguments_eq, invocation, assignments_append_cons]
    simp
  · intro application name earlier later
    refine ⟨client.lead "config" ++ application :: assignments earlier, assignments later,
      fun value => ?_⟩
    rw [arguments_eq, invocation, assignments_append_cons]
    simp
  · intro application
    refine ⟨client.lead "exec" ++ ["--unit", leader application] ++ jsonFormat ++ ["--"],
      fun command => ?_⟩
    rw [arguments_eq, invocation]
    simp
  · exact fun run note setting world calls => client.start_askAll run note setting world calls
  · exact fun call h => client.runs_singleton h
  · exact fun application => rfl

/-- Two users are told apart, even if the name of one looks like options and parameters. -/
theorem Client.arguments_tell_request_options :
    let client : Client := .ofConfig Config.default
    let adding (username : String) : Call :=
      .action "ceph-dashboard" "add-user" [("role", "administrator"), ("username", username)]
    (adding "x").IsSeparable ∧ (adding "x --format=json role=y").IsSeparable ∧
      client.arguments (invocation (adding "x")) ≠
        client.arguments (invocation (adding "x --format=json role=y")) := by
  intro client adding
  have hseparable (username : String) : (adding username).IsSeparable := by
    simp only [adding, Call.IsSeparable, List.forall_mem_cons, List.not_mem_nil, false_implies,
      implies_true, and_true]
    decide
  obtain ⟨htold, -⟩ := arguments_tell_request client
  refine ⟨hseparable _, hseparable _, ?_⟩
  rw [Ne, htold _ _ rfl rfl (hseparable _) (hseparable _)]
  rintro (hsame | ⟨hstatus, -⟩)
  · simp [adding] at hsame
  · exact hstatus

/-- Where names contain the separator, two calls can become one run. -/
example : invocation (.action "a" "add-user" [("role", "x=y")]) =
    invocation (.action "a" "add-user" [("role=x", "y")]) := by decide +kernel

end Juju

end DashboardCheck
