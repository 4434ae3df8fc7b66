import DashboardCheck.Proofs.Settled

/-!
# Contracts of programs

A contract says of a program, whatever it meets, what kind of things it does, what it gives and how
it fails. Contracts of parts make up those of programs; what a part gives may be used for the parts
that come after it.
-/
namespace DashboardCheck.Program

/-- A condition on what is done in a setting. -/
abbrev Proper := Setting → Event → Prop

variable {ε δ α β : Type} {proper : Proper}

def Expected (gives : α → Prop) (fails : ε → Prop) : Except ε α → Prop
  | .ok a => gives a
  | .error e => fails e

/-- All that a program does is proper, and its result is as expected. -/
def Abides (proper : Proper) (gives : α → Prop) (fails : ε → Prop) (p : Program ε α) : Prop :=
  ∀ setting world, ∃ events, (p.start setting world).2.trace = world.trace ++ events ∧
    (∀ event ∈ events, proper setting event) ∧ Expected gives fails (p.start setting world).1

/-- Anything goes. -/
def Any (_ : α) : Prop := True

variable {gives : α → Prop} {gives' : β → Prop} {fails : ε → Prop} {fails' : δ → Prop}

theorem Expected.mapError {f : ε → δ} {x : Except ε α} (hf : ∀ e, fails e → fails' (f e))
    (h : Expected gives fails x) : Expected gives fails' (x.mapError f) := by
  cases x with
  | ok a => exact h
  | error e => exact hf e h

/-- A result may be expected to satisfy less. -/
theorem Expected.weaken {gives₁ : α → Prop} {fails₁ : ε → Prop} {x : Except ε α}
    (hgives : ∀ a, gives a → gives₁ a) (hfails : ∀ e, fails e → fails₁ e)
    (h : Expected gives fails x) : Expected gives₁ fails₁ x := by
  cases x with
  | ok a => exact hgives a h
  | error e => exact hfails e h

theorem expected_any (x : Except ε α) : Expected Any Any x := by
  cases x <;> trivial

/-- Nothing is done. -/
theorem abides_ofExcept {x : Except ε α} (h : Expected gives fails x) :
    Abides proper gives fails (ofExcept x) :=
  fun _ world => ⟨[], by simp, by simp, h⟩

theorem abides_pure {a : α} (h : gives a) :
    Abides proper gives fails (pure a : Program ε α) :=
  abides_ofExcept (x := .ok a) h

theorem abides_throw {e : ε} (h : fails e) :
    Abides proper gives fails (throw e : Program ε α) :=
  abides_ofExcept (x := .error e) h

/-- One thing is done. -/
theorem abides_event {p : Program ε α}
    (h : ∀ setting world, ∃ event, (p.start setting world).2.trace = world.trace ++ [event] ∧
      proper setting event ∧ Expected gives fails (p.start setting world).1) :
    Abides proper gives fails p := by
  intro setting world
  obtain ⟨event, htrace, hproper, hresult⟩ := h setting world
  exact ⟨[event], htrace, by simpa using hproper, hresult⟩

theorem abides_note {event : Event} (h : ∀ setting, proper setting event) :
    Abides proper Any fails (note event : Program ε Unit) :=
  abides_event fun setting _ => ⟨event, rfl, h setting, trivial⟩

theorem abides_ask {call : Call} (h : ∀ setting, proper setting (.called call)) :
    Abides proper Any Any (ask call) :=
  abides_event fun setting _ => ⟨.called call, rfl, h setting, expected_any _⟩

theorem abides_readFile {path : String} (h : ∀ setting, proper setting (.read path)) :
    Abides proper Any Any (readFile path) :=
  abides_event fun setting _ => ⟨.read path, rfl, h setting, expected_any _⟩

theorem abides_makeTemp {entry : Entry} (h : ∀ setting path, proper setting (.made path entry)) :
    Abides proper Any Any (makeTemp entry) := by
  intro setting world
  rw [start_makeTemp]
  cases setting.tempFault world entry with
  | some e => exact ⟨[], by simp, by simp, trivial⟩
  | none => exact ⟨[.made _ entry], rfl, by simpa using h setting _, trivial⟩

theorem abides_freshName (h : ∀ setting name, proper setting (.named name)) :
    Abides proper Any fails (freshName : Program ε String) :=
  abides_event fun setting _ => ⟨.named _, rfl, h setting _, trivial⟩

theorem Abides.bind {p : Program ε α} {f : α → Program ε β} (hp : Abides proper gives fails p)
    (hf : ∀ a, gives a → Abides proper gives' fails (f a)) :
    Abides proper gives' fails (p >>= f) := by
  intro setting world
  obtain ⟨events, htrace, hproper, hresult⟩ := hp setting world
  rcases hstart : p.start setting world with ⟨result, after⟩
  rw [hstart] at htrace hresult
  cases result with
  | ok a =>
    obtain ⟨later, hlater, hproper', hresult'⟩ := hf a hresult setting after
    rw [start_bind_ok setting world hstart]
    refine ⟨events ++ later, ?_, ?_, hresult'⟩
    · rw [hlater, htrace, List.append_assoc]
    · simpa [or_imp, forall_and] using ⟨hproper, hproper'⟩
  | error e =>
    rw [start_bind_error setting world hstart]
    exact ⟨events, htrace, hproper, hresult⟩

theorem Abides.after_log {lines : List LogLine} {q : Program ε α}
    (h : Abides proper gives fails q) :
    Abides proper gives fails (logAll lines >>= fun _ => q) := h

/-- Errors may be renamed as the contract allows. -/
theorem Abides.mapError {p : Program ε α} {f : ε → δ} (hp : Abides proper gives fails p)
    (hf : ∀ e, fails e → fails' (f e)) : Abides proper gives fails' (p.mapError f) := by
  intro setting world
  obtain ⟨events, htrace, hproper, hresult⟩ := hp setting world
  exact ⟨events, htrace, hproper, hresult.mapError hf⟩

/-- An error that is caught is a value. -/
theorem Abides.attempt {p : Program ε α} (hp : Abides proper gives fails p) :
    Abides proper Any fails' (p.attempt : Program δ (Except ε α)) := by
  intro setting world
  obtain ⟨events, htrace, hproper, -⟩ := hp setting world
  exact ⟨events, htrace, hproper, trivial⟩

/-- A program abides by its contract on both sides of a decision. -/
theorem Abides.ite {c : Prop} [Decidable c] {p q : Program ε α}
    (hp : c → Abides proper gives fails p) (hq : ¬ c → Abides proper gives fails q) :
    Abides proper gives fails (if c then p else q) := by
  by_cases h : c
  · rw [if_pos h]
    exact hp h
  · rw [if_neg h]
    exact hq h

/-- A weaker contract. -/
theorem Abides.weaken {gives₁ : α → Prop} {fails₁ : ε → Prop} {p : Program ε α}
    (hp : Abides proper gives fails p) (hgives : ∀ a, gives a → gives₁ a)
    (hfails : ∀ e, fails e → fails₁ e) : Abides proper gives₁ fails₁ p := by
  intro setting world
  obtain ⟨events, htrace, hproper, hresult⟩ := hp setting world
  exact ⟨events, htrace, hproper, hresult.weaken hgives hfails⟩

/-- A contract that allows more. -/
theorem Abides.allowing {proper₁ : Proper} {p : Program ε α} (hp : Abides proper gives fails p)
    (h : ∀ setting event, proper setting event → proper₁ setting event) :
    Abides proper₁ gives fails p := by
  intro setting world
  obtain ⟨events, htrace, hproper, hresult⟩ := hp setting world
  exact ⟨events, htrace, fun event hevent => h setting event (hproper event hevent), hresult⟩

/-- However a program ends, this is what it does first. -/
def OpensWith (event : Event) (p : Program ε α) : Prop :=
  ∀ setting world, ∃ later, (p.start setting world).2.trace = world.trace ++ event :: later

theorem opensWith_ask (call : Call) : OpensWith (.called call) (ask call) :=
  fun _ _ => ⟨[], rfl⟩

theorem OpensWith.mapError {event : Event} {p : Program ε α} (f : ε → δ)
    (hp : OpensWith event p) : OpensWith event (p.mapError f) := hp

/-- What opens a program opens every program that begins with it. -/
theorem OpensWith.bind {event : Event} {p : Program ε α} {f : α → Program ε β}
    (hp : OpensWith event p) (hf : ∀ a, Abides proper gives' fails (f a)) :
    OpensWith event (p >>= f) := by
  intro setting world
  obtain ⟨later, htrace⟩ := hp setting world
  rcases hstart : p.start setting world with ⟨result, after⟩
  rw [hstart] at htrace
  cases result with
  | ok a =>
    obtain ⟨events, hevents, -, -⟩ := hf a setting after
    rw [start_bind_ok setting world hstart]
    exact ⟨later ++ events, by rw [hevents, htrace, List.append_assoc, List.cons_append]⟩
  | error e =>
    rw [start_bind_error setting world hstart]
    exact ⟨later, htrace⟩

end DashboardCheck.Program
