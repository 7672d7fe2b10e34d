/-!
# Steps that may fail half-way

Two kinds of computations can fail in this library.  Those that only compute
something return an `Except`, and a failure leaves nothing behind.  Those that
change a state keep, also when they fail, what they had changed by then: a row
that is refused in the middle stays half-absorbed, and a buffer whose writing
failed is still full.  The second kind returns a `Step`, which always has a
state and says apart from it how the step ended.

`Step.andThen` goes on only after success, and `Step.each` goes through a list
until the first failure.
-/

namespace Rollup

/-! ## Computations -/

namespace Outcome

variable {ε α β : Type}

theorem map_eq_ok {f : α → β} {x : Except ε α} {b : β} :
    x.map f = .ok b ↔ ∃ a, x = .ok a ∧ f a = b := by
  cases x <;> simp [Except.map]

theorem bind_eq_ok {f : α → Except ε β} {x : Except ε α} {b : β} :
    (x >>= f) = .ok b ↔ ∃ a, x = .ok a ∧ f a = .ok b := by
  cases x <;> simp [bind, Except.bind]

theorem pure_eq_ok {a b : α} : (pure a : Except ε α) = .ok b ↔ a = b := by
  simp [pure, Except.pure]

@[simp] theorem throw_ne_ok {e : ε} {a : α} : (throw e : Except ε α) ≠ .ok a := by
  intro h; cases h

end Outcome

/-! ## Steps -/

/-- A state, and whether the step that led to it succeeded. -/
structure Step (ε σ : Type) where
  state : σ
  outcome : Except ε Unit

namespace Step

variable {ε σ τ α : Type}

/-- The step that changes nothing and succeeds. -/
def done (s : σ) : Step ε σ := ⟨s, .ok ()⟩

/-- The step that leaves the state as it is and fails. -/
def failed (s : σ) (e : ε) : Step ε σ := ⟨s, .error e⟩

/-- Goes on with `next` if the step succeeded. -/
@[inline] def andThen (step : Step ε σ) (next : σ → Step ε σ) : Step ε σ :=
  match step.outcome with
  | .ok _ => next step.state
  | .error _ => step

/-- The same step seen inside a larger state. -/
@[inline] def map (f : σ → τ) (step : Step ε σ) : Step ε τ := ⟨f step.state, step.outcome⟩

/-- Goes through a list until the first failure. -/
@[specialize] def each (next : σ → α → Step ε σ) : List α → σ → Step ε σ
  | [], s => done s
  | a :: rest, s => (next s a).andThen (each next rest)

/-- A step that computes its new state or fails without changing the old one. -/
def ofExcept (old : σ) : Except ε σ → Step ε σ
  | .ok s => done s
  | .error e => failed old e

/-- The state of a step that succeeded. -/
def result (step : Step ε σ) : Except ε σ := step.outcome.map fun _ ↦ step.state

@[simp] theorem done_state (s : σ) : (done s : Step ε σ).state = s := rfl
@[simp] theorem done_outcome (s : σ) : (done s : Step ε σ).outcome = .ok () := rfl
@[simp] theorem failed_state (s : σ) (e : ε) : (failed s e).state = s := rfl
@[simp] theorem failed_outcome (s : σ) (e : ε) : (failed s e).outcome = .error e := rfl

@[simp] theorem done_andThen (s : σ) (next : σ → Step ε σ) : (done s).andThen next = next s := rfl

@[simp] theorem failed_andThen (s : σ) (e : ε) (next : σ → Step ε σ) :
    (failed s e).andThen next = failed s e := rfl

@[simp] theorem map_state (f : σ → τ) (step : Step ε σ) : (step.map f).state = f step.state := rfl

@[simp] theorem map_outcome (f : σ → τ) (step : Step ε σ) :
    (step.map f).outcome = step.outcome := rfl

@[simp] theorem each_nil (next : σ → α → Step ε σ) (s : σ) : each next [] s = done s := rfl

@[simp] theorem each_cons (next : σ → α → Step ε σ) (a : α) (rest : List α) (s : σ) :
    each next (a :: rest) s = (next s a).andThen (each next rest) := rfl

theorem andThen_of_ok {step : Step ε σ} (h : step.outcome = .ok ()) (next : σ → Step ε σ) :
    step.andThen next = next step.state := by
  simp [andThen, h]

theorem andThen_of_error {step : Step ε σ} {e : ε} (h : step.outcome = .error e)
    (next : σ → Step ε σ) : step.andThen next = step := by
  simp [andThen, h]

theorem andThen_assoc (step : Step ε σ) (f g : σ → Step ε σ) :
    (step.andThen f).andThen g = step.andThen fun s ↦ (f s).andThen g := by
  cases h : step.outcome with
  | ok u => rw [andThen_of_ok h, andThen_of_ok h]
  | error e => rw [andThen_of_error h, andThen_of_error h, andThen_of_error h]

theorem each_append (next : σ → α → Step ε σ) (xs ys : List α) (s : σ) :
    each next (xs ++ ys) s = (each next xs s).andThen (each next ys) := by
  induction xs generalizing s with
  | nil => rfl
  | cons x xs ih =>
    rw [List.cons_append, each_cons, each_cons, andThen_assoc]
    congr 1
    exact funext ih

/-- What every single step keeps, going through a list keeps. -/
theorem each_invariant {p : σ → Prop} {next : σ → α → Step ε σ}
    (keeps : ∀ s a, p s → p (next s a).state) (xs : List α) {s : σ} (h : p s) :
    p (each next xs s).state := by
  induction xs generalizing s with
  | nil => exact h
  | cons x xs ih =>
    rw [each_cons]
    cases ho : (next s x).outcome with
    | ok _ => rw [andThen_of_ok ho]; exact ih (keeps s x h)
    | error e => rw [andThen_of_error ho]; exact keeps s x h

end Step

end Rollup
