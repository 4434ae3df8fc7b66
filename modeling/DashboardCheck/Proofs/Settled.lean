import DashboardCheck.Proofs.World

/-!
# Programs that always end alike

A condition on the record of what was done is an invariant that programs keep. A program is settled
under such an invariant if it ends with one result wherever the invariant holds, so that nothing
that was done before has a say in it. Settled programs compose.
-/
namespace DashboardCheck.Program

/-- A condition on a setting and what was done in it. -/
abbrev Invariant := Setting → Trace → Prop

variable {ε δ α β : Type} {keep : Invariant}

/-- A program does not break the invariant, however it ends. -/
def Keeps (keep : Invariant) (p : Program ε α) : Prop :=
  ∀ setting world, keep setting world.trace → keep setting (p.start setting world).2.trace

/-- Under the invariant, which it keeps, a program ends with this result. -/
def Gives (keep : Invariant) (p : Program ε α) (result : Except ε α) : Prop :=
  ∀ setting world, keep setting world.trace →
    ∃ finish, p.start setting world = (result, finish) ∧ keep setting finish.trace

/-- Under the invariant a program ends with one result. -/
def Settled (keep : Invariant) (p : Program ε α) : Prop := ∃ result, Gives keep p result

/-- Under the invariant, which it keeps, a program ends with some value. -/
def Succeeds (keep : Invariant) (p : Program ε α) : Prop :=
  ∀ setting world, keep setting world.trace →
    ∃ a finish, p.start setting world = (.ok a, finish) ∧ keep setting finish.trace

@[simp] theorem mapError_ok (f : ε → δ) (a : α) :
    (Except.ok a : Except ε α).mapError f = .ok a := rfl

@[simp] theorem mapError_error (f : ε → δ) (e : ε) :
    (Except.error e : Except ε α).mapError f = .error (f e) := rfl

theorem keeps_ofExcept (x : Except ε α) : Keeps keep (ofExcept x) :=
  fun _ _ h => h

theorem keeps_throw (e : ε) : Keeps keep (throw e : Program ε α) :=
  fun _ _ h => h

theorem keeps_log (lines : List LogLine) : Keeps keep (logAll lines : Program ε Unit) :=
  fun _ _ h => h

theorem Keeps.bind {p : Program ε α} {f : α → Program ε β} (hp : Keeps keep p)
    (hf : ∀ a, Keeps keep (f a)) : Keeps keep (p >>= f) := by
  intro setting world h
  have hafter := hp setting world h
  rw [start_bind]
  rcases hresult : p.start setting world with ⟨result, after⟩
  rw [hresult] at hafter
  cases result with
  | ok a => exact hf a setting after hafter
  | error e => exact hafter

theorem Keeps.after_log {lines : List LogLine} {q : Program ε β} (h : Keeps keep q) :
    Keeps keep (logAll lines >>= fun _ => q) := h

theorem Keeps.mapError {p : Program ε α} (f : ε → δ) (hp : Keeps keep p) :
    Keeps keep (p.mapError f) := by
  intro setting world h
  simpa using hp setting world h

theorem Gives.keeps {p : Program ε α} {result : Except ε α} (hp : Gives keep p result) :
    Keeps keep p := by
  intro setting world h
  obtain ⟨finish, hstart, hfinish⟩ := hp setting world h
  rwa [hstart]

theorem gives_pure (a : α) : Gives keep (pure a : Program ε α) (.ok a) :=
  fun _ world h => ⟨world, rfl, h⟩

theorem gives_throw (e : ε) : Gives keep (throw e : Program ε α) (.error e) :=
  fun _ world h => ⟨world, rfl, h⟩

theorem gives_ofExcept (x : Except ε α) : Gives keep (ofExcept x) x :=
  fun _ world h => ⟨world, rfl, h⟩

theorem gives_note {event : Event}
    (h : ∀ setting trace, keep setting trace → keep setting (trace ++ [event])) :
    Gives keep (note event : Program ε Unit) (.ok ()) := by
  intro setting world hworld
  exact ⟨world.after [event], note_after setting world event, h setting world.trace hworld⟩

theorem Gives.after_log {lines : List LogLine} {q : Program ε β} {result : Except ε β}
    (h : Gives keep q result) : Gives keep (logAll lines >>= fun _ => q) result := h

/-- A program that gives a value goes on with it. -/
theorem Gives.bind_ok {p : Program ε α} {f : α → Program ε β} {a : α} {result : Except ε β}
    (hp : Gives keep p (.ok a)) (hf : Gives keep (f a) result) : Gives keep (p >>= f) result := by
  intro setting world h
  obtain ⟨after, hstart, hafter⟩ := hp setting world h
  obtain ⟨finish, hrest, hfinish⟩ := hf setting after hafter
  refine ⟨finish, ?_, hfinish⟩
  rw [start_bind_ok setting world hstart, hrest]

theorem Gives.bind_error {p : Program ε α} {f : α → Program ε β} {e : ε}
    (hp : Gives keep p (.error e)) : Gives keep (p >>= f) (.error e) := by
  intro setting world h
  obtain ⟨finish, hstart, hfinish⟩ := hp setting world h
  exact ⟨finish, start_bind_error setting world hstart, hfinish⟩

/-- A value that has no say in what follows need not be settled. -/
theorem Succeeds.bind {p : Program ε α} {f : α → Program ε β} {result : Except ε β}
    (hp : Succeeds keep p) (hf : ∀ a, Gives keep (f a) result) : Gives keep (p >>= f) result := by
  intro setting world h
  obtain ⟨a, after, hstart, hafter⟩ := hp setting world h
  obtain ⟨finish, hrest, hfinish⟩ := hf a setting after hafter
  refine ⟨finish, ?_, hfinish⟩
  rw [start_bind_ok setting world hstart, hrest]

theorem Gives.settled {p : Program ε α} {result : Except ε α} (h : Gives keep p result) :
    Settled keep p := ⟨result, h⟩

theorem Settled.after_log {lines : List LogLine} {q : Program ε β}
    (h : Settled keep q) : Settled keep (logAll lines >>= fun _ => q) := h

theorem settled_pure (a : α) : Settled keep (pure a : Program ε α) := (gives_pure a).settled

theorem settled_throw (e : ε) : Settled keep (throw e : Program ε α) := (gives_throw e).settled

theorem settled_ofExcept (x : Except ε α) : Settled keep (ofExcept x) := (gives_ofExcept x).settled

theorem Settled.keeps {p : Program ε α} (h : Settled keep p) : Keeps keep p := by
  obtain ⟨result, hp⟩ := h
  exact hp.keeps

theorem Settled.bind {p : Program ε α} {f : α → Program ε β} (hp : Settled keep p)
    (hf : ∀ a, Settled keep (f a)) : Settled keep (p >>= f) := by
  obtain ⟨result, hp⟩ := hp
  cases result with
  | ok a =>
    obtain ⟨result, hrest⟩ := hf a
    exact (hp.bind_ok hrest).settled
  | error e => exact hp.bind_error.settled

theorem Settled.ite {c : Prop} [Decidable c] {p q : Program ε α} (hp : Settled keep p)
    (hq : Settled keep q) : Settled keep (if c then p else q) := by
  by_cases h : c
  · rwa [if_pos h]
  · rwa [if_neg h]

end DashboardCheck.Program
