import Mathlib.Data.List.Forall2
import Rollup.Outcome

/-!
# Lists of computations, and runs of steps

A list of computations succeeds if all of them do (`mapM_cons_eq_ok`,
`mapM_append_eq_ok`).  Where every item is related to something, there is a list
of what they are related to (`exists_forall₂`).  A run of steps that succeeds has
succeeded at every step, and what each step keeps of the items so far, the run
keeps of all items (`each_history`).  A run that fails has succeeded in front of
one of the items (`exists_refused`).
-/

namespace Rollup

namespace Outcome

variable {ε α β : Type} {f : α → Except ε β} {a : α} {as as' : List α} {b : β} {bs : List β}

theorem ok_bind {g : α → Except ε β} : (Except.ok a >>= g) = g a := rfl

theorem bind_eq_error {x : Except ε α} {g : α → Except ε β} {e : ε} :
    (x >>= g) = .error e ↔ x = .error e ∨ ∃ a, x = .ok a ∧ g a = .error e := by
  cases x <;> simp [bind, Except.bind]

theorem mapM_cons_eq_ok :
    (a :: as).mapM f = .ok bs ↔ ∃ b bs', f a = .ok b ∧ as.mapM f = .ok bs' ∧ b :: bs' = bs := by
  simp only [List.mapM_cons, bind_eq_ok, pure_eq_ok, exists_and_left]

theorem mapM_append_eq_ok :
    (as ++ as').mapM f = .ok bs ↔
      ∃ cs cs', as.mapM f = .ok cs ∧ as'.mapM f = .ok cs' ∧ cs ++ cs' = bs := by
  simp only [List.mapM_append, bind_eq_ok, pure_eq_ok, exists_and_left]

theorem mapM_eq_ok_iff :
    as.mapM f = .ok bs ↔ List.Forall₂ (fun a b ↦ f a = .ok b) as bs := by
  induction as generalizing bs with
  | nil =>
    rw [List.forall₂_nil_left_iff]
    exact ⟨fun h ↦ (Except.ok.inj h).symm, fun h ↦ h ▸ rfl⟩
  | cons a as ih =>
    simp only [mapM_cons_eq_ok, List.forall₂_cons_left_iff, ih]
    simp only [eq_comm]

theorem mapM_snoc_eq_ok (h : as.mapM f = .ok bs) (hb : f a = .ok b) :
    (as ++ [a]).mapM f = .ok (bs ++ [b]) :=
  mapM_append_eq_ok.2 ⟨bs, [b], h, mapM_cons_eq_ok.2 ⟨b, [], hb, rfl, rfl⟩, rfl⟩

/-- What comes first has the results that come first. -/
theorem mapM_take (h : as.mapM f = .ok bs) (n : Nat) : (as.take n).mapM f = .ok (bs.take n) :=
  mapM_eq_ok_iff.2 (List.forall₂_take n (mapM_eq_ok_iff.1 h))

theorem mapM_congr {g : α → Except ε β} (h : ∀ a ∈ as, f a = g a) : as.mapM f = as.mapM g := by
  induction as with
  | nil => rfl
  | cons a as ih =>
    rw [List.forall_mem_cons] at h
    rw [List.mapM_cons, List.mapM_cons, h.1, ih h.2]

theorem length_of_mapM (h : as.mapM f = .ok bs) : bs.length = as.length := by
  induction as generalizing bs with
  | nil => cases h; rfl
  | cons a as ih =>
    obtain ⟨b, bs', -, hbs, rfl⟩ := mapM_cons_eq_ok.1 h
    rw [List.length_cons, List.length_cons, ih hbs]

/-! ### Lists side by side -/

section

variable {γ : Type} {r : α → β → Prop}

theorem getElem?_of_forall₂ (h : List.Forall₂ r as bs) {i : Nat} (ha : as[i]? = some a) :
    ∃ b, bs[i]? = some b ∧ r a b := by
  induction h generalizing i with
  | nil => cases ha
  | @cons x y xs ys hr _ ih =>
    cases i with
    | zero =>
      cases ha
      exact ⟨y, rfl, hr⟩
    | succ i => exact ih ha

theorem exists_of_forall₂ (h : List.Forall₂ r as bs) (ha : a ∈ as) : ∃ b ∈ bs, r a b := by
  obtain ⟨i, hi⟩ := List.getElem?_of_mem ha
  obtain ⟨b, hb, hr⟩ := getElem?_of_forall₂ h hi
  exact ⟨b, List.mem_of_getElem? hb, hr⟩

theorem exists_forall₂ (h : ∀ a ∈ as, ∃ b, r a b) : ∃ bs, List.Forall₂ r as bs := by
  induction as with
  | nil => exact ⟨[], .nil⟩
  | cons a as ih =>
    obtain ⟨⟨b, hb⟩, hrest⟩ := List.forall_mem_cons.1 h
    obtain ⟨bs, hbs⟩ := ih hrest
    exact ⟨b :: bs, .cons hb hbs⟩

theorem forall₂_of_mem {p : α → Prop} {q : β → Prop} (h : List.Forall₂ r as bs)
    (has : ∀ a ∈ as, p a) (hbs : ∀ b ∈ bs, q b) :
    List.Forall₂ (fun a b ↦ r a b ∧ p a ∧ q b) as bs := by
  induction h with
  | nil => exact .nil
  | cons hr _ ih =>
    rw [List.forall_mem_cons] at has hbs
    exact .cons ⟨hr, has.1, hbs.1⟩ (ih has.2 hbs.2)

theorem forall₂_between {p : γ → α → Prop} {q : γ → β → Prop} (h : List.Forall₂ r as bs)
    (hbetween : ∀ a b, r a b → ∃ c, p c a ∧ q c b) :
    ∃ cs, List.Forall₂ p cs as ∧ List.Forall₂ q cs bs := by
  induction h with
  | nil => exact ⟨[], .nil, .nil⟩
  | cons hr _ ih =>
    obtain ⟨c, hp, hq⟩ := hbetween _ _ hr
    obtain ⟨cs, hps, hqs⟩ := ih
    exact ⟨c :: cs, .cons hp hps, .cons hq hqs⟩

end

/-! ### Verdicts -/

/-- Whether a computation succeeds, and how it fails if it does not. -/
def verdict (x : Except ε α) : Except ε Unit := x.map fun _ ↦ ()

theorem verdict_eq_ok {x : Except ε α} : verdict x = .ok () ↔ ∃ a, x = .ok a := by
  cases x <;> simp [verdict, Except.map]

theorem verdict_eq_error {x : Except ε α} {e : ε} : verdict x = .error e ↔ x = .error e := by
  cases x <;> simp [verdict, Except.map]

theorem verdict_map (g : α → β) (x : Except ε α) : verdict (x.map g) = verdict x := by
  cases x <;> rfl

/-- The verdicts on what follows are needed only where both computations succeed. -/
theorem verdict_bind_congr {γ δ : Type} {x : Except ε α} {y : Except ε β} {g : α → Except ε γ}
    {k : β → Except ε δ} (h : verdict x = verdict y)
    (hnext : ∀ a b, x = .ok a → y = .ok b → verdict (g a) = verdict (k b)) :
    verdict (x >>= g) = verdict (y >>= k) := by
  cases hx : x with
  | ok a =>
    obtain ⟨b, hy⟩ := verdict_eq_ok.1 (h.symm.trans (verdict_eq_ok.2 ⟨a, hx⟩))
    rw [hy, ok_bind, ok_bind]
    exact hnext a b hx hy
  | error e =>
    rw [verdict_eq_error.1 (h.symm.trans (verdict_eq_error.2 hx))]
    rfl

/-! ### Computations side by side -/

/-- Both computations succeed with what is related, or both fail with the same error. -/
def Alike (r : α → β → Prop) : Except ε α → Except ε β → Prop
  | .ok a, .ok b => r a b
  | .error e, .error e' => e = e'
  | _, _ => False

theorem Alike.bind {γ δ : Type} {r : α → β → Prop} {r' : γ → δ → Prop} {x : Except ε α}
    {y : Except ε β} {g : α → Except ε γ} {k : β → Except ε δ} (h : Alike r x y)
    (hnext : ∀ a b, r a b → Alike r' (g a) (k b)) : Alike r' (x >>= g) (y >>= k) := by
  match x, y, h with
  | .ok a, .ok b, h => exact hnext a b h
  | .error _, .error _, h => exact h

theorem Alike.of_ok {r : α → β → Prop} {x : Except ε α} {y : Except ε β} (h : Alike r x y) {a : α}
    (hx : x = .ok a) : ∃ b, y = .ok b ∧ r a b := by
  subst hx
  match y, h with
  | .ok b, h => exact ⟨b, rfl, h⟩

theorem Alike.verdict_eq {r : α → β → Prop} {x : Except ε α} {y : Except ε β} (h : Alike r x y) :
    verdict x = verdict y := by
  match x, y, h with
  | .ok _, .ok _, _ => rfl
  | .error _, .error _, h => exact congrArg Except.error h

theorem Alike.of_verdict {r : α → β → Prop} {x : Except ε α} {y : Except ε β}
    (h : verdict x = verdict y) (hok : ∀ a b, x = .ok a → y = .ok b → r a b) : Alike r x y := by
  match x, y, h, hok with
  | .ok a, .ok b, _, hok => exact hok a b rfl rfl
  | .error _, .error _, h, _ => exact Except.error.inj h

end Outcome

namespace Step

variable {ε σ τ α : Type}

/-- Both steps end alike, in states that are related. -/
def Alike (r : σ → τ → Prop) (step : Step ε σ) (step' : Step ε τ) : Prop :=
  step.outcome = step'.outcome ∧ r step.state step'.state

namespace Alike

variable {r : σ → τ → Prop} {step : Step ε σ} {step' : Step ε τ}

theorem result (h : Alike r step step') : Outcome.Alike r step.result step'.result := by
  obtain ⟨houtcome, hstate⟩ := h
  rw [Step.result, Step.result, houtcome]
  cases step'.outcome with
  | ok u => exact hstate
  | error e => rfl

theorem andThen {next : σ → Step ε σ} {next' : τ → Step ε τ} (h : Alike r step step')
    (hnext : ∀ s t, r s t → Alike r (next s) (next' t)) :
    Alike r (step.andThen next) (step'.andThen next') := by
  obtain ⟨houtcome, hstate⟩ := h
  cases hend : step.outcome with
  | ok u =>
    rw [andThen_of_ok hend, andThen_of_ok (houtcome.symm.trans hend)]
    exact hnext _ _ hstate
  | error e =>
    rw [andThen_of_error hend, andThen_of_error (houtcome.symm.trans hend)]
    exact ⟨houtcome, hstate⟩

/-- What single steps keep, going through a list on both sides keeps. -/
theorem each {next : σ → α → Step ε σ} {next' : τ → α → Step ε τ}
    (hnext : ∀ s t a, r s t → Alike r (next s a) (next' t a)) (xs : List α) {s : σ} {t : τ}
    (h : r s t) : Alike r (Step.each next xs s) (Step.each next' xs t) := by
  induction xs generalizing s t with
  | nil => exact ⟨rfl, h⟩
  | cons x xs ih => exact (hnext s t x h).andThen fun _ _ ↦ ih

end Alike

theorem andThen_outcome_ok {step : Step ε σ} {next : σ → Step ε σ} :
    (step.andThen next).outcome = .ok () ↔
      step.outcome = .ok () ∧ (next step.state).outcome = .ok () := by
  cases h : step.outcome with
  | ok u => simp [andThen_of_ok h]
  | error e => simp [andThen_of_error h, h]

theorem andThen_eq_done {step : Step ε σ} {next : σ → Step ε σ} {s : σ} :
    step.andThen next = .done s ↔ ∃ s', step = .done s' ∧ next s' = .done s := by
  obtain ⟨state, outcome⟩ := step
  cases outcome with
  | ok u => simp [andThen, done]
  | error e => simp [andThen, done]

theorem eq_done_of_ok {step : Step ε σ} (h : step.outcome = .ok ()) : step = .done step.state := by
  obtain ⟨state, outcome⟩ := step
  cases h
  rfl

theorem ofExcept_outcome (old : σ) (x : Except ε σ) :
    (ofExcept old x).outcome = Outcome.verdict x := by
  cases x <;> rfl

/-- What is true of the old state, and of the new one where there is one. -/
theorem ofExcept_invariant {p : σ → Prop} {old : σ} {x : Except ε σ} (hold : p old)
    (hnew : ∀ s, x = .ok s → p s) : p (ofExcept old x).state := by
  cases x with
  | ok s => exact hnew s rfl
  | error e => exact hold

theorem ofExcept_eq_done {old s : σ} {x : Except ε σ} : ofExcept old x = .done s ↔ x = .ok s := by
  cases x with
  | ok t => simp [ofExcept, done]
  | error e => simp [ofExcept, failed, done]

theorem result_eq_ok {step : Step ε σ} {s : σ} : step.result = .ok s ↔ step = .done s := by
  obtain ⟨state, outcome⟩ := step
  cases outcome with
  | ok u => simp [result, Except.map, done]
  | error e => simp [result, Except.map, done]

theorem map_andThen_of_ok {step : Step ε σ} (h : step.outcome = .ok ()) (f : σ → τ)
    (next : τ → Step ε τ) : (step.map f).andThen next = next (f step.state) :=
  andThen_of_ok ((map_outcome f step).trans h) next

theorem map_andThen_of_error {step : Step ε σ} {e : ε} (h : step.outcome = .error e) (f : σ → τ)
    (next : τ → Step ε τ) : (step.map f).andThen next = step.map f :=
  andThen_of_error ((map_outcome f step).trans h) next

/-- Going through a list in a larger state, if every step is one of the smaller
state seen in the larger one. -/
theorem each_map {f : σ → τ} {next : σ → α → Step ε σ} {next' : τ → α → Step ε τ}
    (h : ∀ s a, next' (f s) a = (next s a).map f) (xs : List α) (s : σ) :
    each next' xs (f s) = (each next xs s).map f := by
  induction xs generalizing s with
  | nil => rfl
  | cons x xs ih =>
    rw [each_cons, each_cons, h]
    cases hx : (next s x).outcome with
    | ok u => rw [map_andThen_of_ok hx, andThen_of_ok hx, ih]
    | error e => rw [map_andThen_of_error hx, andThen_of_error hx]

theorem each_congr₂ {β : Type} {next : σ → α → Step ε σ} {next' : σ → β → Step ε σ} {xs : List α}
    {ys : List β} (h : List.Forall₂ (fun x y ↦ ∀ s, next s x = next' s y) xs ys) (s : σ) :
    each next xs s = each next' ys s := by
  induction h generalizing s with
  | nil => rfl
  | cons hxy _ ih =>
    rw [each_cons, each_cons, hxy]
    congr 1
    exact funext ih

theorem each_congr {next next' : σ → α → Step ε σ} {xs : List α}
    (h : ∀ x ∈ xs, ∀ s, next s x = next' s x) (s : σ) : each next xs s = each next' xs s :=
  each_congr₂ (List.forall₂_same.2 h) s

/-- What holds of the state and no items, and is kept of one item more by every
step that succeeds, holds after a run that succeeds. -/
theorem each_history {p : σ → List α → Prop} {next : σ → α → Step ε σ}
    (keeps : ∀ s past a, p s past → (next s a).outcome = .ok () → p (next s a).state (past ++ [a]))
    {xs : List α} {s : σ} (h : p s []) (hok : (each next xs s).outcome = .ok ()) :
    p (each next xs s).state xs := by
  suffices aux : ∀ past s, p s past → (each next xs s).outcome = .ok () →
      p (each next xs s).state (past ++ xs) from aux [] s h hok
  clear h hok
  induction xs with
  | nil =>
    intro past s h _
    rwa [List.append_nil]
  | cons x xs ih =>
    intro past s h hok
    rw [each_cons] at hok ⊢
    obtain ⟨hx, hxs⟩ := andThen_outcome_ok.1 hok
    rw [andThen_of_ok hx, List.append_cons]
    exact ih (past ++ [x]) _ (keeps s past x h hx) hxs

/-- A run that fails has succeeded up to an item, and failed with it. -/
theorem exists_refused {next : σ → α → Step ε σ} {xs : List α} {s : σ} {e : ε}
    (h : (each next xs s).outcome = .error e) :
    ∃ front x behind s', xs = front ++ x :: behind ∧ each next front s = .done s' ∧
      each next xs s = next s' x ∧ (next s' x).outcome = .error e := by
  induction xs generalizing s with
  | nil => cases h
  | cons x xs ih =>
    rw [each_cons] at h ⊢
    cases hx : (next s x).outcome with
    | error e' =>
      rw [andThen_of_error hx] at h ⊢
      exact ⟨[], x, xs, s, rfl, rfl, rfl, h⟩
    | ok u =>
      rw [andThen_of_ok hx] at h ⊢
      obtain ⟨front, y, behind, s', rfl, hfront, hrun, hy⟩ := ih h
      refine ⟨x :: front, y, behind, s', rfl, ?_, hrun, hy⟩
      rw [each_cons, andThen_of_ok hx, hfront]

end Step

end Rollup
