import DashboardCheck.Orchestrator.Error
import DashboardCheck.World.Log
import DashboardCheck.World.Trace

/-!
Programs that act on the world. What they meet there is given by a setting, which is free to answer
each call and each request as it likes, in view of all that was done before. A program ends with a
value or an error; what it did stays done in both cases, and so do the lines that it logged. What
is logged has no effect on what is done.
-/
namespace DashboardCheck

/-- What became of a request. -/
inductive Delivery where
  | answered (response : Http.Response)
  /-- There was no connection, so no server saw the request. -/
  | unconnected
  /-- A server was given the request but did not answer in time. -/
  | unanswered
  deriving DecidableEq, Repr

structure Setting where
  /-- What the orchestrator answers to a call in this world, and the disk it leaves behind. -/
  orchestrator : World → (call : Call) → Except OrchestratorError call.Answer × Disk
  /-- What becomes of a request. The time limit is that of the client. -/
  network : World → Option Duration → Http.Request → Delivery
  /-- The names that are made up, one by one. -/
  name : Nat → String
  /-- The paths of temporary files and directories, one by one. -/
  temp : Nat → String
  /-- The time in milliseconds. -/
  clock : World → Nat
  /-- Why a temporary file or directory cannot be made; none if it can. -/
  tempFault : World → Entry → Option FileError := fun _ _ => none
  /-- The lines that whoever drives the orchestrator logs on a call. -/
  remarks : World → Call → List LogLine := fun _ _ => []

def World.make (world : World) (path : String) (entry : Entry) : World where
  trace := world.trace ++ [.made path entry]
  disk := match world.disk.resolve path with
    | .ok place => { world.disk with entries := (place, entry) :: world.disk.entries }
    | .error _ => world.disk

/-- A program, which leads to a result, a world and lines of the log. -/
def Program (ε α : Type) : Type := Setting → World → (Except ε α × World) × List LogLine

namespace Program

variable {ε δ α : Type}

instance : Monad (Program ε) where
  pure a := fun _ world => ((.ok a, world), [])
  bind p f := fun setting world =>
    match p setting world with
    | ((.ok a, after), earlier) =>
      let (outcome, later) := f a setting after
      (outcome, earlier ++ later)
    | ((.error e, after), lines) => ((.error e, after), lines)

instance : MonadExceptOf ε (Program ε) where
  throw e := fun _ world => ((.error e, world), [])
  tryCatch p handle := fun setting world =>
    match p setting world with
    | ((.error e, after), earlier) =>
      let (outcome, later) := handle e setting after
      (outcome, earlier ++ later)
    | done => done

def start (p : Program ε α) (setting : Setting) (world : World) : Except ε α × World :=
  (p setting world).1

def logged (p : Program ε α) (setting : Setting) (world : World) : List LogLine :=
  (p setting world).2

def note (event : Event) : Program ε Unit :=
  fun _ world => ((.ok (), { world with trace := world.trace ++ [event] }), [])

def logAll (lines : List LogLine) : Program ε Unit := fun _ world => ((.ok (), world), lines)

abbrev log (line : LogLine) : Program ε Unit := logAll [line]

def look : Program ε World := fun _ world => ((.ok world, world), [])

def mapError (f : ε → δ) (p : Program ε α) : Program δ α :=
  fun setting world =>
    let ((result, after), lines) := p setting world
    ((result.mapError f, after), lines)

/-- The result of a program, be it a value or an error. -/
def attempt (p : Program ε α) : Program δ (Except ε α) :=
  fun setting world =>
    let ((result, after), lines) := p setting world
    ((.ok result, after), lines)

/-- Goes on with a value, or ends with an error. -/
def ofExcept (x : Except ε α) : Program ε α := fun _ world => ((x, world), [])

def ask (call : Call) : Program OrchestratorError call.Answer := fun setting world =>
  let (answer, disk) := setting.orchestrator world call
  ((answer, ⟨world.trace ++ [.called call], disk⟩), setting.remarks world call)

def inside (change : Setting → Setting) (p : Program ε α) : Program ε α :=
  fun setting world => p (change setting) world

/-- Sends a request on its way. A server has seen it unless there was no connection. -/
def deliver (limit : Option Duration) (request : Http.Request) : Program ε Delivery :=
  fun setting world =>
    let delivery := setting.network world limit request
    match delivery with
    | .unconnected => ((.ok delivery, world), [])
    | _ => ((.ok delivery, { world with trace := world.trace ++ [.sent request] }), [])

/-- A name that was not used before. -/
def freshName : Program ε String := fun setting world =>
  let name := setting.name world.trace.namesMade
  ((.ok name, { world with trace := world.trace ++ [.named name] }), [])

def makeTemp (entry : Entry) : Program FileError String := fun setting world =>
  match setting.tempFault world entry with
  | some e => ((.error e, world), [])
  | none =>
    let path := setting.temp world.trace.tempsMade
    ((.ok path, world.make path entry), [])

def freshDirectory : Program FileError String := makeTemp .directory

def freshFile (content : Text.Bytes) : Program FileError String := makeTemp (.file content)

def readFile (path : String) : Program FileError Text.Bytes := fun _ world =>
  ((world.disk.read path, { world with trace := world.trace ++ [.read path] }), [])

/-- The time in milliseconds. -/
def now : Program ε Nat := fun setting world => ((.ok (setting.clock world), world), [])

section Running

variable {β : Type} (setting : Setting) (world : World)

@[simp] theorem start_pure (a : α) :
    (pure a : Program ε α).start setting world = (.ok a, world) := rfl

@[simp] theorem start_throw (e : ε) :
    (throw e : Program ε α).start setting world = (.error e, world) := rfl

/-- A program goes on with its value, in the world that it left, and ends with its first error. -/
theorem start_bind (p : Program ε α) (f : α → Program ε β) :
    (p >>= f).start setting world =
      match p.start setting world with
      | (.ok a, after) => (f a).start setting after
      | (.error e, after) => (.error e, after) := by
  simp only [start, bind]
  rcases p setting world with ⟨⟨result, after⟩, lines⟩
  cases result <;> rfl

theorem start_bind_ok {p : Program ε α} {f : α → Program ε β} {a : α} {after : World}
    (h : p.start setting world = (.ok a, after)) :
    (p >>= f).start setting world = (f a).start setting after := by
  rw [start_bind, h]

theorem start_bind_error {p : Program ε α} {f : α → Program ε β} {e : ε} {after : World}
    (h : p.start setting world = (.error e, after)) :
    (p >>= f).start setting world = (.error e, after) := by
  rw [start_bind, h]

@[simp] theorem start_note (event : Event) :
    (note event : Program ε Unit).start setting world =
      (.ok (), { world with trace := world.trace ++ [event] }) := rfl

@[simp] theorem start_logAll (lines : List LogLine) :
    (logAll lines : Program ε Unit).start setting world = (.ok (), world) := rfl

/-- What is logged leaves no mark on what is done. -/
@[simp] theorem start_bind_log (lines : List LogLine) (f : Unit → Program ε β) :
    (logAll lines >>= f).start setting world = (f ()).start setting world := rfl

/-- Nor is what is logged on a value that a program comes to. -/
theorem start_bind_log_value (p : Program ε α) (lines : α → List LogLine) :
    (p >>= fun a => logAll (lines a) >>= fun _ => pure a).start setting world =
      p.start setting world := by
  rw [start_bind]
  rcases p.start setting world with ⟨result, after⟩
  cases result <;> rfl

@[simp] theorem start_look :
    (look : Program ε World).start setting world = (.ok world, world) := rfl

@[simp] theorem start_ofExcept (x : Except ε α) :
    (ofExcept x : Program ε α).start setting world = (x, world) := rfl

@[simp] theorem start_mapError (f : ε → δ) (p : Program ε α) :
    (p.mapError f).start setting world =
      ((p.start setting world).1.mapError f, (p.start setting world).2) := rfl

@[simp] theorem start_attempt (p : Program ε α) :
    (p.attempt : Program δ (Except ε α)).start setting world =
      (.ok (p.start setting world).1, (p.start setting world).2) := rfl

/-- A question is noted whatever the answer is. -/
@[simp] theorem start_ask (call : Call) :
    (ask call).start setting world =
      ((setting.orchestrator world call).1,
        ⟨world.trace ++ [.called call], (setting.orchestrator world call).2⟩) := rfl

@[simp] theorem start_inside (change : Setting → Setting) (p : Program ε α) :
    (p.inside change).start setting world = p.start (change setting) world := rfl

/-- A temporary file or directory is made under the next name, unless the setting has a fault for
it. -/
theorem start_makeTemp (entry : Entry) :
    (makeTemp entry).start setting world =
      match setting.tempFault world entry with
      | some e => (.error e, world)
      | none => (.ok (setting.temp world.trace.tempsMade),
          world.make (setting.temp world.trace.tempsMade) entry) := by
  simp only [start, makeTemp]
  cases setting.tempFault world entry <;> rfl

@[simp] theorem start_now :
    (now : Program ε Nat).start setting world = (.ok (setting.clock world), world) := rfl

/-- The log of a program: its first lines, then those of what follows the value. -/
theorem logged_bind (p : Program ε α) (f : α → Program ε β) :
    (p >>= f).logged setting world =
      p.logged setting world ++
        match p.start setting world with
        | (.ok a, after) => (f a).logged setting after
        | (.error _, _) => [] := by
  simp only [logged, start, bind]
  rcases p setting world with ⟨⟨result, after⟩, lines⟩
  cases result with
  | ok a => rfl
  | error e => simp

end Running

end Program

end DashboardCheck
