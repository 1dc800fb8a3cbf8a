/-!
# Stateful computations without outside effects

The protocol is written over an arbitrary monad for the effects of the outside world. Where that is
the identity, a computation that may fail and carries a state is a function from states to results
and states. `Stateful.on` is that function, and here is what it does to a sequence.

- `Stateful.Agree`: two computations with the same result that leave related states.
- `Stateful.among`: the same computation where the outside world has effects, too.
-/

namespace TelemetryLink.Stateful

variable {ε σ α β : Type} {step : ExceptT ε (StateT σ Id) α} {state after : σ}

/-- The result of a computation without outside effects, and the state after it. -/
def on (step : ExceptT ε (StateT σ Id) α) (state : σ) : Except ε α × σ :=
  (step.run.run state).run

/-- After a success the next computation is made. -/
theorem on_bind_ok {a : α} (next : α → ExceptT ε (StateT σ Id) β)
    (h : on step state = (.ok a, after)) : on (step >>= next) state = on (next a) after := by
  change ((step.run.run state).run |> fun p => ((ExceptT.bindCont next p.1).run p.2).run) = _
  rw [show (step.run.run state).run = (.ok a, after) from h]
  rfl

/-- After a failure it is not. -/
theorem on_bind_error {e : ε} (next : α → ExceptT ε (StateT σ Id) β)
    (h : on step state = (.error e, after)) : on (step >>= next) state = (.error e, after) := by
  change ((step.run.run state).run |> fun p => ((ExceptT.bindCont next p.1).run p.2).run) = _
  rw [show (step.run.run state).run = (.error e, after) from h]
  rfl

/-- A failure told in other words. -/
theorem on_adapt {ε' : Type} (f : ε → ε') (step : ExceptT ε (StateT σ Id) α) (state : σ) :
    on (ExceptT.adapt f step) state = ((on step state).1.mapError f, (on step state).2) :=
  rfl

/-- What came of an attempt, with a failure told in other words. -/
theorem on_told {φ : Type} {attempt : StateT σ Id (Except φ α)} {result : Except φ α} (tell : φ → ε)
    (h : attempt state = (result, after)) :
    on (ExceptT.mk do return (← attempt).mapError tell) state = (result.mapError tell, after) := by
  change ((attempt state).1.mapError tell, (attempt state).2) = _
  rw [h]

/-! ## Two computations side by side -/

/-- Two computations end with the same result, and the states after them are related. -/
def Agree (R : σ → σ → Prop) (one other : Except ε α × σ) : Prop :=
  ∃ result state state', one = (result, state) ∧ other = (result, state') ∧ R state state'

namespace Agree

variable {R : σ → σ → Prop} {one other : Except ε α × σ}

theorem intro (h : one.1 = other.1 ∧ R one.2 other.2) : Agree R one other :=
  ⟨one.1, one.2, other.2, rfl, Prod.ext h.1.symm rfl, h.2⟩

theorem result_eq (h : Agree R one other) : one.1 = other.1 := by
  obtain ⟨result, state, state', rfl, rfl, -⟩ := h
  rfl

theorem related (h : Agree R one other) : R one.2 other.2 := by
  obtain ⟨result, state, state', rfl, rfl, hstates⟩ := h
  exact hstates

/-- Each followed by a computation that may depend on its value. -/
theorem bind {step' : ExceptT ε (StateT σ Id) α} {next next' : α → ExceptT ε (StateT σ Id) β}
    {state' : σ} (h : Agree R (on step state) (on step' state'))
    (hnext : ∀ a after after', R after after' →
      Agree R (on (next a) after) (on (next' a) after')) :
    Agree R (on (step >>= next) state) (on (step' >>= next') state') := by
  obtain ⟨result, after, after', hstep, hstep', hafter⟩ := h
  cases result with
  | error e =>
    exact ⟨_, after, after', on_bind_error next hstep, on_bind_error next' hstep', hafter⟩
  | ok a =>
    rw [on_bind_ok next hstep, on_bind_ok next' hstep']
    exact hnext a after after' hafter

end Agree

/-! ## With effects outside -/

section Among

variable {m : Type → Type} [Monad m]

/-- The same computation where there are effects outside, of which it has none. -/
def among (step : ExceptT ε (StateT σ Id) α) : ExceptT ε (StateT σ m) α :=
  ExceptT.mk fun state => pure (on step state)

/-- A sequence has no effects outside if its parts have none. -/
theorem among_bind [LawfulMonad m] {step : ExceptT ε (StateT σ Id) α}
    {next : α → ExceptT ε (StateT σ Id) β} {step' : ExceptT ε (StateT σ m) α}
    {next' : α → ExceptT ε (StateT σ m) β} (hstep : among step = step')
    (hnext : ∀ a, among (next a) = next' a) : among (step >>= next) = step' >>= next' := by
  subst hstep
  obtain rfl : (fun a => among (next a)) = next' := funext hnext
  refine ExceptT.ext (StateT.ext fun state => ?_)
  change pure (on (step >>= next) state) = (pure (on step state) >>= fun p =>
    (ExceptT.bindCont (fun a => among (next a)) p.1).run p.2 : m _)
  rw [pure_bind]
  -- Both sides are the same function of the outcome of the first part.
  rcases h : on step state with ⟨e | a, after⟩
  · exact congrArg pure (on_bind_error next h)
  · exact congrArg pure (on_bind_ok next h)

end Among

theorem among_get {S : Type} :
    among get = (get : ExceptT ε (StateT σ (StateM S)) σ) := rfl

end TelemetryLink.Stateful
