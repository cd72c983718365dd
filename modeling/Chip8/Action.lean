/-!
Actions that change a state in place and may fail. What an action did before it failed stays.
-/

namespace Chip8

variable {ε δ σ τ α β : Type}

/-- An action on a part of a state. The part is put back also if the action fails. -/
def onPart (part : σ → τ) (put : σ → τ → σ) (wrap : ε → δ) (x : EStateM ε τ α) :
    EStateM δ σ α := fun s =>
  match x.run (part s) with
  | .ok a t => .ok a (put s t)
  | .error e t => .error (wrap e) (put s t)

/-- The state after an action, also after one that fails. -/
def state (x : EStateM ε σ α) (s : σ) : σ :=
  match x.run s with
  | .ok _ t => t
  | .error _ t => t

/-- The state after an action, if it does not fail. -/
def state? (x : EStateM ε σ α) (s : σ) : Option σ :=
  match x.run s with
  | .ok _ t => some t
  | .error .. => none

theorem run_onPart (part : σ → τ) (put : σ → τ → σ) (wrap : ε → δ) (x : EStateM ε τ α) (s : σ) :
    (onPart part put wrap x).run s = match x.run (part s) with
      | .ok a t => .ok a (put s t)
      | .error e t => .error (wrap e) (put s t) := rfl

theorem state_of_ok {x : EStateM ε σ α} {a : α} {s t : σ} (h : x.run s = .ok a t) :
    state x s = t := by
  rw [state, h]

theorem state_of_error {x : EStateM ε σ α} {e : ε} {s t : σ} (h : x.run s = .error e t) :
    state x s = t := by
  rw [state, h]

@[simp] theorem state_pure (a : α) (s : σ) : state (pure a : EStateM ε σ α) s = s := rfl

theorem state_bind (x : EStateM ε σ α) (f : α → EStateM ε σ β) (s : σ) :
    state (x >>= f) s = match x.run s with
      | .ok a t => state (f a) t
      | .error _ t => t := by
  unfold state
  rw [EStateM.run_bind]
  cases x.run s <;> rfl

/-- An action that does not fail ends in a state. -/
theorem run_of_isSome {x : EStateM ε σ Unit} {s : σ} (h : (state? x s).isSome) :
    x.run s = .ok () (state x s) := by
  unfold state? at h
  unfold state
  cases hx : x.run s with
  | ok _ t => rfl
  | error e t =>
    rw [hx] at h
    cases h

theorem run_of_eq_none {x : EStateM ε σ α} {s : σ} (h : state? x s = none) :
    ∃ e, x.run s = .error e (state x s) := by
  unfold state? at h
  unfold state
  cases hx : x.run s with
  | ok _ t =>
    rw [hx] at h
    cases h
  | error e t => exact ⟨e, rfl⟩

theorem state?_of_ok {x : EStateM ε σ α} {a : α} {s t : σ} (h : x.run s = .ok a t) :
    state? x s = some t := by
  rw [state?, h]

theorem state?_of_error {x : EStateM ε σ α} {e : ε} {s t : σ} (h : x.run s = .error e t) :
    state? x s = none := by
  rw [state?, h]

end Chip8
