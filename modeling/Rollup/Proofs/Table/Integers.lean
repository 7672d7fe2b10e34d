import Mathlib.Algebra.BigOperators.Group.List.Basic
import Mathlib.Algebra.Ring.Int.Defs
import Mathlib.Data.List.Induction
import Mathlib.Data.List.Perm.Basic
import Rollup.Proofs.Table.Sum

/-!
# Sums and extremes of integers

A sum of numbers of 64 bits becomes a double as soon as it leaves the range, and the order
of the numbers decides whether it ever does.  It never does if the positive numbers fit
together and the negative ones do (`Numeric.Bounded`): whichever of them have been added by
then, their sum lies between those of all negative and of all positive ones
(`Numeric.sum_mem_range`).  The total is then the sum of the integers
(`Aggregate.total_ints`).

The best of integers is the one that none of the others beats, in whatever order they come
(`Aggregate.best_ints`).  So what an aggregate prints for integers does not depend on the
order of the rows (`Aggregate.Prints.congr_perm`), unless it prints fields of the best row.
-/

namespace Rollup

open Outcome

namespace Outcome

variable {ε α β : Type} {f : α → Except ε β} {as as' : List α} {bs : List β}

/-- Computations in another order have their results in another order. -/
theorem mapM_perm (h : as.mapM f = .ok bs) (hperm : as.Perm as') :
    ∃ bs', as'.mapM f = .ok bs' ∧ bs.Perm bs' := by
  obtain ⟨bs', hall, hresults⟩ :=
    List.perm_comp_forall₂ hperm.symm (mapM_eq_ok_iff.1 h)
  exact ⟨bs', mapM_eq_ok_iff.2 hall, hresults.symm⟩

end Outcome

/-! ## Integers that fit -/

namespace Numeric

/-- The positive ones of the integers have a sum of 64 bits, and so have the negative
ones. -/
structure Bounded (xs : List Int) : Prop where
  positive : fits (xs.filter (0 < ·)).sum
  negative : fits (xs.filter (· < 0)).sum

theorem fits_of_le {a b x : Int} (ha : fits a) (hb : fits b) (hax : a ≤ x) (hxb : x ≤ b) :
    fits x := by
  simp only [fits, Bool.and_eq_true, decide_eq_true_eq] at *
  omega

/-- Some of the integers come to no less than all negative ones, and to no more than all
positive ones. -/
theorem sum_mem_range {xs ys : List Int} (h : ys.Sublist xs) :
    (xs.filter (· < 0)).sum ≤ ys.sum ∧ ys.sum ≤ (xs.filter (0 < ·)).sum := by
  induction h with
  | slnil => exact ⟨Int.le_refl _, Int.le_refl _⟩
  | cons x _ ih | cons_cons x _ ih =>
    by_cases hneg : x < 0 <;> by_cases hpos : 0 < x <;>
      simp only [List.filter_cons, hneg, hpos, decide_true, decide_false, if_true, if_false,
        Bool.false_eq_true, List.sum_cons] <;> omega

namespace Bounded

variable {xs ys : List Int}

theorem fits_sum (h : Bounded xs) (hsub : ys.Sublist xs) : fits ys.sum :=
  fits_of_le h.negative h.positive (sum_mem_range hsub).1 (sum_mem_range hsub).2

theorem inRange (h : Bounded xs) : InRange xs :=
  fun _ hpart ↦ h.fits_sum hpart.sublist

theorem of_sublist (h : Bounded xs) (hsub : ys.Sublist xs) : Bounded ys where
  positive := h.fits_sum (List.filter_sublist.trans hsub)
  negative := h.fits_sum (List.filter_sublist.trans hsub)

theorem of_perm (h : Bounded xs) (hperm : xs.Perm ys) : Bounded ys where
  positive := (hperm.filter _).sum_eq ▸ h.positive
  negative := (hperm.filter _).sum_eq ▸ h.negative

end Bounded

/-! ## Integers that are not beaten -/

section Goal

variable {goal : Goal} {a b c : Int}

theorem beatsInt_self (goal : Goal) (a : Int) : beatsInt goal a a = false := by
  cases goal <;> exact decide_eq_false (Int.lt_irrefl a)

/-- What does not beat an integer does not beat a better one. -/
theorem beatsInt_of_better (hbetter : beatsInt goal b a = true) (h : beatsInt goal c a = false) :
    beatsInt goal c b = false := by
  cases goal <;> simp only [beatsInt, decide_eq_true_eq, decide_eq_false_iff_not] at * <;> omega

theorem eq_of_unbeaten (h : beatsInt goal b a = false) (h' : beatsInt goal a b = false) :
    a = b := by
  cases goal <;> simp only [beatsInt, decide_eq_false_iff_not] at h h' <;> omega

end Goal

end Numeric

open Numeric (Bounded beatsInt)

namespace Aggregate

/-! ## Totals and best numbers -/

/-- No prefix of the integers leaves the range, so that the total is their sum. -/
theorem total_ints {xs : List Int} (h : Bounded xs) : total (xs.map .int) = .int xs.sum :=
  total_of_inRange h.inRange

/-- The best of some integers is one of them, and none of them beats it. -/
theorem best_ints (goal : Goal) {xs : List Int} (hne : xs ≠ []) :
    ∃ m ∈ xs, best goal (xs.map .int) = .int m ∧ ∀ x ∈ xs, beatsInt goal x m = false := by
  induction xs using List.reverseRecOn with
  | nil => exact absurd rfl hne
  | append_singleton xs x ih =>
    cases xs with
    | nil =>
      exact ⟨x, List.mem_singleton_self x, rfl,
        List.forall_mem_singleton.2 (Numeric.beatsInt_self goal x)⟩
    | cons y ys =>
      obtain ⟨m, hmem, hbest, hunbeaten⟩ := ih (List.cons_ne_nil y ys)
      rw [List.map_append, List.map_singleton, List.map_cons, best_snoc, ← List.map_cons, hbest]
      by_cases hbeats : beatsInt goal x m = true
      · refine ⟨x, List.mem_append_right _ (List.mem_singleton_self x), ?_, ?_⟩
        · simp only [Numeric.improve, Numeric.improvement?, if_pos hbeats, Option.getD_some]
        · rw [List.forall_mem_append, List.forall_mem_singleton]
          exact ⟨fun z hz ↦ Numeric.beatsInt_of_better hbeats (hunbeaten z hz),
            Numeric.beatsInt_self goal x⟩
      · refine ⟨m, List.mem_append_left _ hmem, ?_, ?_⟩
        · simp only [Numeric.improve, Numeric.improvement?, if_neg hbeats, Option.getD_none]
        · rw [List.forall_mem_append, List.forall_mem_singleton]
          exact ⟨hunbeaten, eq_false_of_ne_true hbeats⟩

theorem best_ints_perm (goal : Goal) {xs ys : List Int} (hperm : xs.Perm ys) :
    best goal (xs.map .int) = best goal (ys.map .int) := by
  by_cases hne : xs = []
  · subst hne
    rw [hperm.nil_eq]
  · obtain ⟨m, hm, hbest, hunbeaten⟩ := best_ints goal hne
    have hne' : ys ≠ [] := fun hnil ↦ hne (hnil ▸ hperm).eq_nil
    obtain ⟨m', hm', hbest', hunbeaten'⟩ := best_ints goal hne'
    rw [hbest, hbest', Numeric.eq_of_unbeaten (hunbeaten m' (hperm.mem_iff.2 hm'))
      (hunbeaten' m (hperm.mem_iff.1 hm))]

/-! ## Rows in another order -/

variable [NumberReader] {rows rows' : List Row} {field : Nat}

theorem readings_perm {xs : List Int} (h : readings field rows = .ok (xs.map .int))
    (hperm : rows.Perm rows') :
    ∃ ys : List Int, readings field rows' = .ok (ys.map .int) ∧ xs.Perm ys := by
  rw [readings, mapM_eq_ok_iff, List.forall₂_map_right_iff] at h
  obtain ⟨ys, hall, hresults⟩ := List.perm_comp_forall₂ hperm.symm h
  refine ⟨ys, ?_, hresults.symm⟩
  rw [readings, mapM_eq_ok_iff, List.forall₂_map_right_iff]
  exact hall

/-- All numbers that the aggregate reads from the rows are integers, and those that it sums
are bounded.  It prints no fields of the best row. -/
def Exact (rows : List Row) : Aggregate → Prop
  | .nothing | .count _ | .distinct _ _ => True
  | .sum field _ => ∃ xs : List Int, readings field rows = .ok (xs.map .int) ∧ Bounded xs
  | .extremum _ field _ => ∃ xs : List Int, readings field rows = .ok (xs.map .int)
  | .bestRow _ _ _ => False

/-- What an exact aggregate prints does not depend on the order of the rows. -/
theorem Prints.congr_perm {aggregate : Aggregate} {entries others : List (Nat × Bytes)}
    (h : aggregate.Prints rows entries) (h' : aggregate.Prints rows' others)
    (hexact : aggregate.Exact rows) (hperm : rows.Perm rows') : entries = others := by
  cases h with
  | nothing => cases h'; rfl
  | count => cases h'; rw [hperm.length_eq]
  | sum hxs =>
    obtain ⟨xs, hreadings, hbounded⟩ := hexact
    obtain ⟨ys, hreadings', hints⟩ := readings_perm hreadings hperm
    cases h' with
    | sum hys =>
      cases hxs.symm.trans hreadings
      cases hys.symm.trans hreadings'
      rw [total_ints hbounded, total_ints (hbounded.of_perm hints), hints.sum_eq]
  | extremum hxs =>
    obtain ⟨xs, hreadings⟩ := hexact
    obtain ⟨ys, hreadings', hints⟩ := readings_perm hreadings hperm
    cases h' with
    | extremum hys =>
      cases hxs.symm.trans hreadings
      cases hys.symm.trans hreadings'
      rw [best_ints_perm _ hints]
  | bestRow => exact hexact.elim
  | distinct hvalues =>
    obtain ⟨values', hvalues', hsame⟩ := mapM_perm hvalues hperm
    cases h' with
    | distinct hothers =>
      cases hothers.symm.trans hvalues'
      rw [hsame.dedup.length_eq]

end Aggregate

end Rollup
