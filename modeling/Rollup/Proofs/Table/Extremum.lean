import Rollup.Number.Standard
import Rollup.Proofs.Number.Rounding
import Rollup.Proofs.Table.Integers

/-!
# Nothing beats the least number, or the greatest

An accumulator that looks for the least or the greatest number takes what is strictly better
than what it holds.  Two integers are compared exactly and everything else as doubles
(`Numeric.Better`), and this comparison is no order: above 2⁵³ different integers can be the
same double, and what is no number compares with nothing.

It is still true in the end that none of the numbers is better than what is held
(`Aggregate.best_unbeaten`).  What carries the induction over the numbers is that whatever does
not beat a number does not beat what takes its place either (`Numeric.not_better_held`).  Of
the two ways in which an integer is let go, for a better integer and for a better double, each
needs that the double next to an integer grows with the integer.
-/

namespace Rollup

open Outcome

/-! ## Comparing doubles -/

namespace Binary64

variable {a b c : Binary64}

theorem lt_eq_true_iff :
    a.lt b = true ↔ ∃ x y, a.rank? = some x ∧ b.rank? = some y ∧ x < y := by
  unfold lt
  cases a.rank? <;> cases b.rank? <;> simp

theorem lt_irrefl (a : Binary64) : a.lt a ≠ true := by
  intro h
  obtain ⟨x, y, hx, hy, hlt⟩ := lt_eq_true_iff.1 h
  obtain rfl := Option.some.inj (hx.symm.trans hy)
  exact Int.lt_irrefl x hlt

theorem lt_trans (hab : a.lt b = true) (hbc : b.lt c = true) : a.lt c = true := by
  obtain ⟨x, y, hx, hy, hxy⟩ := lt_eq_true_iff.1 hab
  obtain ⟨y', z, hy', hz, hyz⟩ := lt_eq_true_iff.1 hbc
  obtain rfl := Option.some.inj (hy.symm.trans hy')
  exact lt_eq_true_iff.2 ⟨x, z, hx, hz, Int.lt_trans hxy hyz⟩

/-- A double below that of an integer is below that of a larger one. -/
theorem lt_ofInt_of_le {i j : Int} (hij : i ≤ j) (h : a.lt (ofInt i) = true) :
    a.lt (ofInt j) = true := by
  obtain ⟨x, y, hx, hy, hxy⟩ := lt_eq_true_iff.1 h
  obtain ⟨y', z, hy', hz, hyz⟩ := rank?_ofInt_mono hij
  obtain rfl := Option.some.inj (hy.symm.trans hy')
  exact lt_eq_true_iff.2 ⟨x, z, hx, hz, Int.lt_of_lt_of_le hxy hyz⟩

/-- A double above that of an integer is above that of a smaller one. -/
theorem ofInt_lt_of_le {i j : Int} (hij : i ≤ j) (h : (ofInt j).lt a = true) :
    (ofInt i).lt a = true := by
  obtain ⟨y, z, hy, hz, hyz⟩ := lt_eq_true_iff.1 h
  obtain ⟨x, y', hx, hy', hxy⟩ := rank?_ofInt_mono hij
  obtain rfl := Option.some.inj (hy.symm.trans hy')
  exact lt_eq_true_iff.2 ⟨x, z, hx, hz, Int.lt_of_le_of_lt hxy hyz⟩

end Binary64

namespace Numeric

variable {goal : Goal} {x y z : Numeric}

theorem beatsDouble_self (goal : Goal) (d : Binary64) : beatsDouble goal d d ≠ true := by
  cases goal <;> exact Binary64.lt_irrefl d

theorem beatsDouble_trans {a b c : Binary64} (hab : beatsDouble goal a b = true)
    (hbc : beatsDouble goal b c = true) : beatsDouble goal a c = true := by
  cases goal with
  | lowest => exact Binary64.lt_trans hab hbc
  | highest => exact Binary64.lt_trans hbc hab

/-- What beats the double next to an integer beats the one next to a worse integer. -/
theorem beatsDouble_of_worse {i j : Int} {d : Binary64} (hij : beatsInt goal j i = false)
    (h : beatsDouble goal d (.ofInt i) = true) : beatsDouble goal d (.ofInt j) = true := by
  cases goal with
  | lowest => exact Binary64.lt_ofInt_of_le (Int.not_lt.1 (of_decide_eq_false hij)) h
  | highest => exact Binary64.ofInt_lt_of_le (Int.not_lt.1 (of_decide_eq_false hij)) h

/-- Integers that differ as doubles differ the same way as integers. -/
theorem beatsInt_of_beatsDouble {i j : Int}
    (h : beatsDouble goal (.ofInt i) (.ofInt j) = true) : beatsInt goal i j = true := by
  by_contra hnot
  exact beatsDouble_self goal _ (beatsDouble_of_worse (eq_false_of_ne_true hnot) h)

/-! ## Comparing numbers -/

/-- A number is strictly nearer to the goal than another: two integers are compared exactly, and
anything else as doubles. -/
def Better (goal : Goal) : (candidate current : Numeric) → Prop
  | .int i, .int j => beatsInt goal i j = true
  | x, y => beatsDouble goal x.toBinary64 y.toBinary64 = true

/-- What is held of a number that is better: an integer in the place of an integer, and
otherwise a double. -/
def held : (current candidate : Numeric) → Numeric
  | .int _, .int j => .int j
  | _, y => .float y.toBinary64

theorem Better.of_doubles (h : beatsDouble goal x.toBinary64 y.toBinary64 = true) :
    Better goal x y := by
  cases x with
  | int i =>
    cases y with
    | int j => exact beatsInt_of_beatsDouble h
    | unset | float => exact h
  | unset | float => cases y <;> exact h

theorem not_better_self (goal : Goal) (x : Numeric) : ¬ Better goal x x := by
  cases x with
  | int i =>
    have hself := beatsInt_self goal i
    exact fun h ↦ Bool.noConfusion (hself.symm.trans h)
  | unset | float => exact beatsDouble_self goal _

/-- What does not beat a number does not beat what takes its place. -/
theorem not_better_held (hbetter : Better goal y x) (h : ¬ Better goal z x) :
    ¬ Better goal z (held x y) := by
  -- A double takes the place of `x`, and everything is compared with it as a double.
  have hdouble (hheld : held x y = .float y.toBinary64)
      (hy : beatsDouble goal y.toBinary64 x.toBinary64 = true) : ¬ Better goal z (held x y) := by
    intro hz
    rw [hheld] at hz
    have hz' : beatsDouble goal z.toBinary64 y.toBinary64 = true := by cases z <;> exact hz
    exact h (.of_doubles (beatsDouble_trans hz' hy))
  cases x with
  | unset | float => exact hdouble (by cases y <;> rfl) (by cases y <;> exact hbetter)
  | int i =>
    cases y with
    | unset | float => exact hdouble rfl hbetter
    | int j =>
      cases z with
      | int k =>
        have hworse := beatsInt_of_better hbetter (eq_false_of_ne_true h)
        exact fun hz ↦ Bool.noConfusion (hworse.symm.trans hz)
      | unset | float =>
        have hworse := beatsInt_of_better hbetter (beatsInt_self goal i)
        exact fun hz ↦ h (beatsDouble_of_worse hworse hz)

theorem not_better_held_self (goal : Goal) (x y : Numeric) : ¬ Better goal y (held x y) := by
  cases x with
  | unset | float => cases y <;> exact beatsDouble_self goal _
  | int i =>
    cases y with
    | int j => exact not_better_self goal (.int j)
    | unset | float => exact beatsDouble_self goal _

theorem improve_of_better (hx : x ≠ .unset) (hy : y ≠ .unset) (h : Better goal y x) :
    x.improve goal y = held x y := by
  have hsome : x.improvement? goal y = some (held x y) := by
    cases x with
    | unset => exact absurd rfl hx
    | int i | float d =>
      cases y with
      | unset => exact absurd rfl hy
      | int j | float e => exact if_pos h
  rw [improve, hsome, Option.getD_some]

theorem improve_of_not_better (hx : x ≠ .unset) (h : ¬ Better goal y x) :
    x.improve goal y = x := by
  have hnone : x.improvement? goal y = none := by
    cases x with
    | unset => exact absurd rfl hx
    | int i | float d =>
      cases y with
      | unset => rfl
      | int j | float e => exact if_neg h
  rw [improve, hnone, Option.getD_none]

/-- A double stays one. -/
theorem exists_float_improve (goal : Goal) (d : Binary64) (y : Numeric) :
    ∃ e, (Numeric.float d).improve goal y = .float e := by
  by_cases hy : y = .unset
  · subst hy
    exact ⟨d, rfl⟩
  · by_cases h : Better goal y (.float d)
    · exact ⟨_, improve_of_better Numeric.noConfusion hy h⟩
    · exact ⟨d, improve_of_not_better Numeric.noConfusion h⟩

end Numeric

open Numeric (Better beatsInt held)

namespace Aggregate

variable {goal : Goal} {xs : List Numeric}

/-! ## The best of some numbers -/

/-- A number is one of some numbers, or the double next to one of them. -/
def Stems (s : Numeric) (xs : List Numeric) : Prop := s ∈ xs ∨ ∃ x ∈ xs, s = .float x.toBinary64

theorem stems_held {x y : Numeric} (hy : y ∈ xs) : Stems (held x y) xs := by
  cases x with
  | unset | float => exact .inr ⟨y, hy, by cases y <;> rfl⟩
  | int i =>
    cases y with
    | int j => exact .inl hy
    | unset | float => exact .inr ⟨_, hy, rfl⟩

theorem Stems.ne_unset {s : Numeric} (h : Stems s xs) (hset : ∀ x ∈ xs, x ≠ .unset) :
    s ≠ .unset := by
  rcases h with hmem | ⟨x, -, rfl⟩
  · exact hset s hmem
  · exact Numeric.noConfusion

theorem Stems.mono {s : Numeric} {ys : List Numeric} (h : Stems s xs) (hsub : xs ⊆ ys) :
    Stems s ys :=
  h.imp (fun hmem ↦ hsub hmem) fun ⟨x, hx, heq⟩ ↦ ⟨x, hsub hx, heq⟩

/-- The best number stems from the numbers, and none of them is better. -/
theorem best_stems (goal : Goal) (hne : xs ≠ []) (hset : ∀ x ∈ xs, x ≠ .unset) :
    Stems (best goal xs) xs ∧ ∀ x ∈ xs, ¬ Better goal x (best goal xs) := by
  induction xs using List.reverseRecOn with
  | nil => exact absurd rfl hne
  | append_singleton xs y ih =>
    rw [List.forall_mem_append, List.forall_mem_singleton] at hset
    cases xs with
    | nil =>
      exact ⟨.inl (List.mem_singleton_self y),
        List.forall_mem_singleton.2 (Numeric.not_better_self goal y)⟩
    | cons x xs =>
      obtain ⟨hstems, hunbeaten⟩ := ih (List.cons_ne_nil x xs) hset.1
      have hbest := hstems.ne_unset hset.1
      rw [best_snoc, List.forall_mem_append, List.forall_mem_singleton]
      by_cases hbetter : Better goal y (best goal (x :: xs))
      · rw [Numeric.improve_of_better hbest hset.2 hbetter]
        refine ⟨stems_held (List.mem_append_right _ (List.mem_singleton_self y)), ?_, ?_⟩
        · exact fun z hz ↦ Numeric.not_better_held hbetter (hunbeaten z hz)
        · exact Numeric.not_better_held_self goal _ y
      · rw [Numeric.improve_of_not_better hbest hbetter]
        exact ⟨hstems.mono (List.subset_append_left _ _), hunbeaten, hbetter⟩

/-- Once it is a double, the best number stays one. -/
theorem exists_float_best {front : List Numeric} {d : Binary64} (hne : front ≠ [])
    (hfront : front <+: xs) (h : best goal front = .float d) : ∃ e, best goal xs = .float e := by
  obtain ⟨behind, rfl⟩ := hfront
  induction behind using List.reverseRecOn with
  | nil => exact ⟨d, by rwa [List.append_nil]⟩
  | append_singleton behind y ih =>
    obtain ⟨e, he⟩ := ih
    obtain ⟨x, xs, hxs⟩ := List.exists_cons_of_ne_nil (List.append_ne_nil_of_left_ne_nil hne behind)
    rw [← List.append_assoc, hxs, best_snoc, ← hxs, he]
    exact Numeric.exists_float_improve goal e y

/-- An integer is at least as near to the goal as another. -/
def AsNear : Goal → (i j : Int) → Prop
  | .lowest, i, j => i ≤ j
  | .highest, i, j => j ≤ i

theorem asNear_of_not_beatsInt {i j : Int} (h : beatsInt goal j i = false) : AsNear goal i j := by
  cases goal <;> exact Int.not_lt.1 (of_decide_eq_false h)

end Aggregate

namespace Aggregator

open Aggregate

variable {goal : Goal} {field column : Nat} {rows : List Row} {xs : List Numeric}

/-- The first number is held as it is, and every further one only if it is better. -/
theorem lone_extremum [NumberReader] (hne : rows ≠ []) (hxs : readings field rows = .ok xs) :
    lone (.extremum goal field column) rows =
      .ok (new (.extremum goal field column), .number (best goal xs)) := by
  apply lone_of_readings (fun row ↦ rfl) _ hne hxs
  intro ys hys row
  obtain ⟨y, ys, rfl⟩ := List.exists_cons_of_ne_nil hys
  simp only [best_snoc]
  rfl

end Aggregator

namespace Aggregate

open Aggregator (lone new lone_extremum)

variable {xs : List Numeric}

/-- What is held after some numbers, the least or the greatest of them, is one of them or the
double next to one, and none of them is better.  Among integers it is exactly the least or the
greatest.  Once it is a double it stays one. -/
theorem best_unbeaten [NumberReader] (goal : Goal) (hne : xs ≠ []) (hset : ∀ x ∈ xs, x ≠ .unset) :
    (∀ field column rows, readings field rows = .ok xs →
      lone (.extremum goal field column) rows =
        .ok (new (.extremum goal field column), .number (best goal xs))) ∧
    (best goal xs ∈ xs ∨ ∃ x ∈ xs, best goal xs = .float x.toBinary64) ∧
    (∀ x ∈ xs, ¬ Better goal x (best goal xs)) ∧
    (∀ is : List Int, xs = is.map .int →
      ∃ i ∈ is, best goal xs = .int i ∧ ∀ j ∈ is, AsNear goal i j) ∧
    ∀ front d, front ≠ [] → front <+: xs → best goal front = .float d →
      ∃ e, best goal xs = .float e := by
  obtain ⟨hstems, hunbeaten⟩ := best_stems goal hne hset
  refine ⟨?_, hstems, hunbeaten, ?_, fun front d ↦ exists_float_best⟩
  · intro field column rows hxs
    apply lone_extremum _ hxs
    rintro rfl
    exact hne (Except.ok.inj hxs).symm
  · rintro is rfl
    have his : is ≠ [] := fun hnil ↦ hne (List.map_eq_nil_iff.2 hnil)
    obtain ⟨i, hi, hbest, hleast⟩ := best_ints goal his
    exact ⟨i, hi, hbest, fun j hj ↦ asNear_of_not_beatsInt (hleast j hj)⟩

open Standard

/-- Two integers that are the same double, one that is beyond them, and no number at all: the
integers are told apart until a double comes. -/
theorem best_unbeaten_mixed :
    let xs : List Numeric := [.int 9007199254740993, .float .nan, .int 9007199254740992,
      .float (.ofInt 9007199254740991), .int 9007199254740992]
    xs ≠ [] ∧ (∀ x ∈ xs, x ≠ .unset) ∧ ∀ x ∈ xs, ¬ Better .lowest x (best .lowest xs) := by
  intro xs
  have hne : xs ≠ [] := List.cons_ne_nil _ _
  have hset : ∀ x ∈ xs, x ≠ .unset := by decide
  exact ⟨hne, hset, (best_unbeaten .lowest hne hset).2.2.1⟩

end Aggregate

end Rollup
