import Mathlib.Data.List.Induction
import Rollup.Number.Standard
import Rollup.Proofs.Number.Exact
import Rollup.Proofs.Table.Aggregator

/-!
# How long a sum is exact

A sum begins with zero and takes in one number after the other.  It is a whole number as long
as all numbers are and no sum on the way has left the 64 bits (`Numeric.InRange`).  The first
number that ends this (`Numeric.Leaves`) is added as a double to what has been summed up, and
from then on doubles are added to a double (`Numeric.addAll`).

One of the two is the case for every list of numbers (`Numeric.inRange_or_leaves`), and each
says what the total is (`Aggregate.total_of_inRange`, `Aggregate.total_of_leaves`).  Both
follow the numbers from the first to the last, so the induction appends at the end.
-/

namespace Rollup

open Outcome

namespace Numeric

/-! ## Sums on the way -/

/-- The sums of the integers from zero on, after each of them, are numbers of 64 bits. -/
def InRange (is : List Int) : Prop := ∀ part, part <+: is → fits part.sum

/-- With `x` behind these integers the sum is no integer of 64 bits any more. -/
def Leaves (front : List Int) (x : Numeric) : Prop :=
  (∃ d, x = .float d) ∨ ∃ i, x = .int i ∧ ¬ fits (front.sum + i)

/-- Adds numbers as doubles, from the first to the last. -/
def addAll (d : Binary64) (xs : List Numeric) : Binary64 :=
  xs.foldl (fun d x ↦ d.add x.toBinary64) d

theorem inRange_nil : InRange [] := by
  intro part hpart
  rw [List.prefix_nil.1 hpart]
  rfl

theorem InRange.of_prefix {front is : List Int} (h : InRange is) (hfront : front <+: is) :
    InRange front :=
  fun part hpart ↦ h part (hpart.trans hfront)

theorem inRange_snoc {is : List Int} {i : Int} :
    InRange (is ++ [i]) ↔ InRange is ∧ fits (is.sum + i) := by
  constructor
  · intro h
    refine ⟨h.of_prefix (List.prefix_append is [i]), ?_⟩
    have hall : fits (is ++ [i]).sum := h _ (List.prefix_refl _)
    rwa [List.sum_append, List.sum_singleton] at hall
  · rintro ⟨h, hfits⟩ part hpart
    rcases List.prefix_concat_iff.1 hpart with rfl | hpart
    · rwa [List.sum_append, List.sum_singleton]
    · exact h part hpart

/-- A field spells a number or none at all. -/
theorem make_ne_unset [NumberReader] (field : Bytes) : make field ≠ .ok .unset := by
  intro h
  rcases makeBy_eq_ok h with ⟨i, hi⟩ | ⟨d, hd, -⟩
  · cases hi
  · cases hd

/-- Numbers are integers that stay in range together, or one of them is the first to leave. -/
theorem inRange_or_leaves {xs : List Numeric} (hset : ∀ x ∈ xs, x ≠ .unset) :
    (∃ is, xs = is.map .int ∧ InRange is) ∨
      ∃ front x behind, xs = front.map .int ++ x :: behind ∧ InRange front ∧ Leaves front x := by
  induction xs using List.reverseRecOn with
  | nil => exact .inl ⟨[], rfl, inRange_nil⟩
  | append_singleton xs x ih =>
    rw [List.forall_mem_append, List.forall_mem_singleton] at hset
    rcases ih hset.1 with ⟨is, rfl, his⟩ | ⟨front, y, behind, rfl, hfront, hleaves⟩
    · cases x with
      | unset => exact absurd rfl hset.2
      | int i =>
        by_cases hfits : fits (is.sum + i)
        · exact .inl ⟨is ++ [i], by simp, inRange_snoc.2 ⟨his, hfits⟩⟩
        · exact .inr ⟨is, .int i, [], rfl, his, .inr ⟨i, rfl, hfits⟩⟩
      | float d => exact .inr ⟨is, .float d, [], rfl, his, .inl ⟨d, rfl⟩⟩
    · exact .inr ⟨front, y, behind ++ [x], by simp, hfront, hleaves⟩

/-- Integers of which one leaves do not stay in range together. -/
theorem Leaves.not_inRange {front is : List Int} {x : Numeric} {behind : List Numeric}
    (h : Leaves front x) (his : front.map .int ++ x :: behind = is.map .int) : ¬ InRange is := by
  intro hrange
  obtain ⟨is₁, is₂, rfl, hfront, htail⟩ := List.map_eq_append_iff.1 his.symm
  obtain ⟨i, rest, rfl, rfl, -⟩ := List.map_eq_cons_iff.1 htail
  have heq : is₁ = front := List.map_injective_iff.2 (fun _ _ ↦ Numeric.int.inj) hfront
  subst heq
  rcases h with ⟨d, hd⟩ | ⟨j, hj, hfits⟩
  · cases hd
  · cases hj
    have hle : is₁ ++ [i] <+: is₁ ++ i :: rest := ⟨rest, by simp⟩
    exact hfits (inRange_snoc.1 (hrange.of_prefix hle)).2

/-! ## One more number -/

theorem add_int_of_fits {a i : Int} (h : fits (a + i)) :
    (Numeric.int a).add (.int i) = .int (a + i) :=
  if_pos h

theorem add_of_leaves {front : List Int} {x : Numeric} (h : Leaves front x) :
    (Numeric.int front.sum).add x = .float ((Binary64.ofInt front.sum).add x.toBinary64) := by
  rcases h with ⟨d, rfl⟩ | ⟨i, rfl, hfits⟩
  · rfl
  · exact if_neg hfits

/-- A double stays one. -/
theorem foldl_add_float (xs : List Numeric) (d : Binary64) :
    xs.foldl Numeric.add (.float d) = .float (addAll d xs) := by
  induction xs generalizing d with
  | nil => rfl
  | cons x xs ih =>
    have hstep : (Numeric.float d).add x = .float (d.add x.toBinary64) := by cases x <;> rfl
    rw [List.foldl_cons, hstep]
    exact ih _

/-! ## How a whole number is printed -/

theorem bytes_int (i : Int) : (Numeric.int i).bytes = Bytes.ascii (toString i) := by
  have hchars : Writing.integer i = (toString i).toList := by
    cases i with
    | ofNat n => simp [Writing.integer, toString, Int.repr, Nat.repr]
    | negSucc n => simp [Writing.integer, toString, Int.repr, Nat.repr, Int.negSucc_lt_zero]
  rw [Numeric.bytes, Numeric.chars, hchars]
  rfl

end Numeric

open Numeric (InRange Leaves addAll)

namespace Aggregate

/-! ## Totals -/

theorem total_of_inRange {is : List Int} (h : InRange is) : total (is.map .int) = .int is.sum := by
  induction is using List.reverseRecOn with
  | nil => rfl
  | append_singleton is i ih =>
    obtain ⟨hfront, hfits⟩ := Numeric.inRange_snoc.1 h
    rw [List.map_append, List.map_singleton, total_snoc, ih hfront, Numeric.add_int_of_fits hfits,
      List.sum_append, List.sum_singleton]

theorem total_of_leaves {front : List Int} {x : Numeric} (hfront : InRange front)
    (hleaves : Leaves front x) (behind : List Numeric) :
    total (front.map .int ++ x :: behind) =
      .float (addAll ((Binary64.ofInt front.sum).add x.toBinary64) behind) := by
  rw [total, List.foldl_append, List.foldl_cons]
  change behind.foldl .add ((total (front.map .int)).add x) = _
  rw [total_of_inRange hfront, Numeric.add_of_leaves hleaves]
  exact Numeric.foldl_add_float behind _

/-- Every field that is read has a number. -/
theorem readings_ne_unset [NumberReader] {field : Nat} {rows : List Row} {xs : List Numeric}
    (h : readings field rows = .ok xs) : ∀ x ∈ xs, x ≠ .unset := by
  induction rows generalizing xs with
  | nil =>
    cases h
    exact List.forall_mem_nil _
  | cons row rows ih =>
    obtain ⟨x, ys, hx, hys, rfl⟩ := mapM_cons_eq_ok.1 h
    refine List.forall_mem_cons.2 ⟨?_, ih hys⟩
    rintro rfl
    unfold Aggregator.number at hx
    split at hx
    · cases hx
    · exact Numeric.make_ne_unset _ hx

end Aggregate

namespace Aggregator

open Aggregate

/-! ## The state of a sum -/

variable {field column : Nat} {rows : List Row} {xs : List Numeric}

section

variable [NumberReader]

/-- The state of an aggregate that holds one number, which it works out from the readings of a
field, from the first row to the last. -/
theorem lone_of_readings {aggregate : Aggregate} {value : List Numeric → Numeric}
    (hstart : ∀ row, (new aggregate).start row =
      (new aggregate, (number row field).map fun x ↦ .number (value [x])))
    (habsorb : ∀ xs, xs ≠ [] → ∀ row, (new aggregate).absorb row (.number (value xs)) =
      .ofExcept (new aggregate, .number (value xs))
        ((number row field).map fun x ↦ (new aggregate, .number (value (xs ++ [x])))))
    (hne : rows ≠ []) (hxs : readings field rows = .ok xs) :
    lone aggregate rows = .ok (new aggregate, .number (value xs)) := by
  induction rows using List.reverseRecOn generalizing xs with
  | nil => exact absurd rfl hne
  | append_singleton rows row ih =>
    obtain ⟨ys, zs, hys, hzs, rfl⟩ := mapM_append_eq_ok.1 hxs
    obtain ⟨x, us, hx, hus, rfl⟩ := mapM_cons_eq_ok.1 hzs
    obtain rfl : us = [] := (Except.ok.inj hus).symm
    by_cases hfirst : rows = []
    · subst hfirst
      cases hys
      rw [List.nil_append, lone_singleton, hstart, hx]
      rfl
    · have hys' : ys ≠ [] := by
        rintro rfl
        exact hfirst (List.eq_nil_of_length_eq_zero (length_of_mapM hys).symm)
      rw [lone_snoc hfirst, ih hfirst hys, ok_bind]
      dsimp only
      rw [habsorb ys hys', hx]
      rfl

/-- A sum begins with zero at its first row, so that all rows are added alike. -/
theorem lone_sum_eq_total (hne : rows ≠ []) (hxs : readings field rows = .ok xs) :
    lone (.sum field column) rows = .ok (new (.sum field column), .number (total xs)) := by
  apply lone_of_readings (fun row ↦ rfl) _ hne hxs
  intro ys _ row
  simp only [total_snoc]
  rfl

/-- The state of a sum on the way. -/
theorem lone_sum_take (hxs : readings field rows = .ok xs) {ys : List Numeric} (hne : ys ≠ [])
    (hys : ys <+: xs) :
    lone (.sum field column) (rows.take ys.length) =
      .ok (new (.sum field column), .number (total ys)) := by
  have htake : readings field (rows.take ys.length) = .ok ys := by
    rw [List.prefix_iff_eq_take.1 hys, List.length_take,
      Nat.min_eq_left hys.length_le]
    exact mapM_take hxs ys.length
  apply lone_sum_eq_total _ htake
  intro hnil
  rw [hnil] at htake
  exact hne (Except.ok.inj htake).symm

/-- A sum is a whole number exactly if all numbers are and none of the sums on the way leaves
the 64 bits; it is then their sum and is printed in decimal.  Otherwise there is a first row
at which it becomes a double, and from that row on doubles are added. -/
theorem lone_sum (hne : rows ≠ []) (hxs : readings field rows = .ok xs) :
    ∃ s, lone (.sum field column) rows = .ok (new (.sum field column), .number s) ∧
      ((∃ i, s = .int i) ↔ ∃ is : List Int, xs = is.map .int ∧ InRange is) ∧
      (∀ is : List Int, xs = is.map .int → InRange is →
        s = .int is.sum ∧ results (new (.sum field column)) (.number s) =
          .ok [(column, Bytes.ascii (toString is.sum))]) ∧
      ((¬ ∃ is : List Int, xs = is.map .int ∧ InRange is) →
        ∃ front x behind, xs = front.map .int ++ x :: behind ∧ InRange front ∧ Leaves front x ∧
          (∀ part, part ≠ [] → part <+: front →
            lone (.sum field column) (rows.take part.length) =
              .ok (new (.sum field column), .number (.int part.sum))) ∧
          ∀ later, later <+: behind →
            lone (.sum field column) (rows.take (front.length + 1 + later.length)) =
              .ok (new (.sum field column), .number (.float
                (addAll ((Binary64.ofInt front.sum).add x.toBinary64) later)))) := by
  have hexact : ∀ is : List Int, xs = is.map .int → InRange is → total xs = .int is.sum := by
    rintro is rfl his
    exact total_of_inRange his
  refine ⟨total xs, lone_sum_eq_total hne hxs, ?_, ?_, ?_⟩
  · constructor
    · rintro ⟨i, hi⟩
      rcases Numeric.inRange_or_leaves (readings_ne_unset hxs) with
        his | ⟨front, x, behind, rfl, hfront, hleaves⟩
      · exact his
      · rw [total_of_leaves hfront hleaves] at hi
        cases hi
    · rintro ⟨is, his, hrange⟩
      exact ⟨is.sum, hexact is his hrange⟩
  · intro is his hrange
    refine ⟨hexact is his hrange, ?_⟩
    rw [hexact is his hrange, ← Numeric.bytes_int]
    rfl
  · intro hnot
    rcases Numeric.inRange_or_leaves (readings_ne_unset hxs) with
      his | ⟨front, x, behind, rfl, hfront, hleaves⟩
    · exact absurd his hnot
    · refine ⟨front, x, behind, rfl, hfront, hleaves, ?_, ?_⟩
      · intro part hpart hle
        rw [← total_of_inRange (hfront.of_prefix hle), ← List.length_map Numeric.int]
        apply lone_sum_take hxs
        · exact fun hnil ↦ hpart (List.map_eq_nil_iff.1 hnil)
        · exact (hle.map _).trans (List.prefix_append _ _)
      · intro later hlater
        have hlength : (front.map Numeric.int ++ x :: later).length =
            front.length + 1 + later.length := by
          rw [List.length_append, List.length_map, List.length_cons]
          omega
        rw [← hlength, ← total_of_leaves hfront hleaves]
        apply lone_sum_take hxs (by simp)
        exact List.prefix_append_right_inj _ |>.2 (List.cons_prefix_cons.2 ⟨rfl, hlater⟩)

end

open Standard

/-- The largest integer goes over to a double at one more, and stays one. -/
theorem lone_sum_boundary :
    let rows : List Row := [.ofFields [Bytes.ascii "9223372036854775807"], .ofFields [[49]],
      .ofFields [[45, 50]]]
    let xs : List Numeric := [.int 9223372036854775807, .int 1, .int (-2)]
    rows ≠ [] ∧ readings 0 rows = .ok xs ∧
      ∃ s, lone (.sum 0 1) rows = .ok (new (.sum 0 1), .number s) ∧ ∀ i, s ≠ .int i := by
  intro rows xs
  have hne : rows ≠ [] := List.cons_ne_nil _ _
  have hxs : readings 0 rows = .ok xs := by decide
  obtain ⟨s, hlone, hint, -⟩ := @lone_sum 0 1 rows xs _ hne hxs
  refine ⟨hne, hxs, s, hlone, ?_⟩
  intro i hi
  obtain ⟨is, his, hrange⟩ := hint.1 ⟨i, hi⟩
  have hleaves : Leaves [9223372036854775807] (.int 1) := .inr ⟨1, rfl, by decide⟩
  exact hleaves.not_inRange his hrange

end Aggregator

end Rollup
