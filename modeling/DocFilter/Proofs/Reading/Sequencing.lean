/-!
# Sequences of steps

Scanners and readers are run on a state, which is a cursor or a stream of
tokens, and return a value or stop with an error.  These statements open one
step of such a sequence, whatever its state and its errors are.
-/

namespace DocFilter

variable {ε σ α β : Type}

/-- The state that a run leaves, whether it returns or stops. -/
def left : EStateM.Result ε σ α → σ
  | .ok _ state => state
  | .error _ state => state

/-- A sequence goes on where its first step has stopped. -/
theorem bind_of_eq_ok
    {first : EStateM ε σ α} {next : α → EStateM ε σ β} {state middle : σ}
    {value : α} (h : first state = .ok value middle) :
    (first >>= next) state = next value middle := by
  change EStateM.bind first next state = _
  unfold EStateM.bind
  rw [h]

/-- A sequence ends where its first step has failed. -/
theorem bind_of_eq_error
    {first : EStateM ε σ α} {next : α → EStateM ε σ β} {state middle : σ}
    {error : ε} (h : first state = .error error middle) :
    (first >>= next) state = .error error middle := by
  change EStateM.bind first next state = _
  unfold EStateM.bind
  rw [h]

/-- A sequence succeeds when its steps do, one behind the other. -/
theorem bind_eq_ok_iff
    {first : EStateM ε σ α} {next : α → EStateM ε σ β} {state state' : σ}
    {result : β} :
    (first >>= next) state = .ok result state' ↔
      ∃ value middle, first state = .ok value middle ∧
        next value middle = .ok result state' := by
  constructor
  · intro h
    cases hfirst : first state with
    | ok value middle =>
      rw [bind_of_eq_ok hfirst] at h
      exact ⟨value, middle, rfl, h⟩
    | error error middle =>
      rw [bind_of_eq_error hfirst] at h
      cases h
  · rintro ⟨value, middle, hfirst, hnext⟩
    rw [bind_of_eq_ok hfirst, hnext]

/-- What follows a first step matters only where this step has stopped. -/
theorem bind_congr_of_ok
    {first : EStateM ε σ α} {next next' : α → EStateM ε σ β} {state : σ}
    (h : ∀ value middle, first state = .ok value middle →
      next value middle = next' value middle) :
    (first >>= next) state = (first >>= next') state := by
  cases hfirst : first state with
  | ok value middle =>
    rw [bind_of_eq_ok hfirst, bind_of_eq_ok hfirst]
    exact h value middle hfirst
  | error error middle => rw [bind_of_eq_error hfirst, bind_of_eq_error hfirst]

theorem pure_eq_ok_iff {value result : α} {state state' : σ} :
    (pure value : EStateM ε σ α) state = .ok result state' ↔
      result = value ∧ state' = state := by
  change EStateM.Result.ok value state = _ ↔ _
  rw [EStateM.Result.ok.injEq]
  exact and_congr eq_comm eq_comm

/-- What is done with the state is done with it as it stands. -/
theorem get_bind_eq (next : σ → EStateM ε σ α) (state : σ) :
    ((get : EStateM ε σ σ) >>= next) state = next state state := rfl

/-- What is done behind a change is done with the changed state. -/
theorem modify_bind_eq (change : σ → σ) (next : Unit → EStateM ε σ α)
    (state : σ) :
    ((modify change : EStateM ε σ Unit) >>= next) state =
      next () (change state) := rfl

end DocFilter
