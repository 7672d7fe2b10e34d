import Mathlib.Data.List.Dedup
import Rollup.Proofs.Outcome
import Rollup.Table.Aggregator

/-!
# What the rows of one group come to

`Aggregate.Prints aggregate rows entries` says what an aggregate makes of the
rows of one group, without accumulators and without other groups:

| Aggregate | Printed |
|---|---|
| `count` | the number of rows |
| `distinct` | the number of different values of the field |
| `sum` | the sum of the numbers in the field, from the first row to the last |
| `extremum` | the best of these numbers, from the first row to the last |
| `bestRow` | fields of the last row whose number was better than the best of those before |

The rows determine what is printed (`Prints.unique`).
-/

namespace Rollup

open Outcome

namespace Aggregate

/-! ## Numbers -/

/-- The sum of some numbers. -/
def total (xs : List Numeric) : Numeric := xs.foldl .add (.int 0)

/-- The best of some numbers, beginning with the first. -/
def best (goal : Goal) : List Numeric → Numeric
  | [] => .unset
  | x :: xs => xs.foldl (.improve goal) x

theorem total_snoc (xs : List Numeric) (x : Numeric) : total (xs ++ [x]) = (total xs).add x := by
  simp [total]

theorem best_snoc (goal : Goal) (x : Numeric) (xs : List Numeric) (y : Numeric) :
    best goal (x :: xs ++ [y]) = (best goal (x :: xs)).improve goal y := by
  simp [best]

theorem best_snoc_of_none {goal : Goal} {y : Numeric} {ys : List Numeric} {x : Numeric}
    (h : (best goal (y :: ys)).improvement? goal x = none) :
    best goal (y :: (ys ++ [x])) = best goal (y :: ys) := by
  rw [← List.cons_append, best_snoc, Numeric.improve, h]
  rfl

theorem best_snoc_of_some {goal : Goal} {y : Numeric} {ys : List Numeric} {x better : Numeric}
    (h : (best goal (y :: ys)).improvement? goal x = some better) :
    best goal (y :: (ys ++ [x])) = better := by
  rw [← List.cons_append, best_snoc, Numeric.improve, h]
  rfl

/-! ### Numbers of a field -/

variable [NumberReader]

/-- The numbers in a field of some rows. -/
def readings (field : Nat) (rows : List Row) : Except Error (List Numeric) :=
  rows.mapM fun row ↦ Aggregator.number row field

theorem readings_split {field : Nat} {front behind : List Row} {row : Row} {xs ys : List Numeric}
    {x : Numeric} (hfront : readings field front = .ok xs)
    (hrow : Aggregator.number row field = .ok x) (hbehind : readings field behind = .ok ys) :
    readings field (front ++ row :: behind) = .ok (xs ++ x :: ys) :=
  mapM_append_eq_ok.2 ⟨xs, x :: ys, hfront, mapM_cons_eq_ok.2 ⟨x, ys, hrow, hbehind, rfl⟩, rfl⟩

/-! ## The best row -/

/-- `row` is the last of `rows` with a number that was better than the best of the
numbers in front of it.  The first row is better than nothing. -/
inductive Champion (goal : Goal) (field : Nat) : List Row → Row → Prop
  | intro {front behind : List Row} {row : Row} {xs ys : List Numeric} {x : Numeric}
    (hfront : readings field front = .ok xs) (hrow : Aggregator.number row field = .ok x)
    (hbehind : readings field behind = .ok ys)
    (better : front = [] ∨ ((best goal xs).improvement? goal x).isSome)
    (unbeaten : ∀ zs z, zs ++ [z] <+: ys → (best goal (xs ++ x :: zs)).improvement? goal z = none) :
    Champion goal field (front ++ row :: behind) row

namespace Champion

variable {goal : Goal} {field : Nat} {rows : List Row} {champion row : Row}

theorem singleton {x : Numeric} (hrow : Aggregator.number row field = .ok x) :
    Champion goal field [row] row :=
  have hall : Champion goal field ([] ++ row :: []) row :=
    .intro rfl hrow rfl (.inl rfl) fun zs z h ↦ by simp at h
  hall

/-- A row that is not better leaves the champion. -/
theorem snoc_of_none (h : Champion goal field rows champion) {xs : List Numeric} {y : Numeric}
    (hrows : readings field rows = .ok xs) (hrow : Aggregator.number row field = .ok y)
    (hnone : (best goal xs).improvement? goal y = none) :
    Champion goal field (rows ++ [row]) champion := by
  cases h with
  | @intro front behind _ us vs u hfront hchampion hbehind better unbeaten =>
    have hxs : xs = us ++ u :: vs :=
      Except.ok.inj (hrows.symm.trans (readings_split hfront hchampion hbehind))
    rw [List.append_assoc, List.cons_append]
    refine .intro hfront hchampion (mapM_snoc_eq_ok hbehind hrow) better fun zs z hz ↦ ?_
    rcases List.prefix_concat_iff.1 hz with heq | hz
    · obtain ⟨rfl, hzy⟩ := List.append_inj' heq rfl
      rw [← hxs, List.singleton_inj.1 hzy]
      exact hnone
    · exact unbeaten zs z hz

/-- A better row is the new champion. -/
theorem snoc_of_some {xs : List Numeric} {y : Numeric}
    (hrows : readings field rows = .ok xs) (hrow : Aggregator.number row field = .ok y)
    (hsome : ((best goal xs).improvement? goal y).isSome) :
    Champion goal field (rows ++ [row]) row :=
  .intro hrows hrow rfl (.inr hsome) fun zs z h ↦ by simp at h

/-- A champion is not followed by a better row. -/
theorem no_better_behind {front mid behind : List Row} {us ws ys : List Numeric} {u w : Numeric}
    (hfront : readings field front = .ok us) (hchampion : Aggregator.number champion field = .ok u)
    (hbehind : readings field (mid ++ row :: behind) = .ok ys)
    (unbeaten : ∀ zs z, zs ++ [z] <+: ys → (best goal (us ++ u :: zs)).improvement? goal z = none)
    (hbefore : readings field (front ++ champion :: mid) = .ok ws)
    (hrow : Aggregator.number row field = .ok w) :
    ¬ (front ++ champion :: mid = [] ∨ ((best goal ws).improvement? goal w).isSome) := by
  obtain ⟨vs, xs, hvs, hxs, rfl⟩ := mapM_append_eq_ok.1 hbehind
  obtain ⟨x, xs', hx, -, rfl⟩ := mapM_cons_eq_ok.1 hxs
  cases hx.symm.trans hrow
  cases hbefore.symm.trans (readings_split hfront hchampion hvs)
  rw [unbeaten vs w (by simp)]
  simp

theorem unique {other : Row} (h : Champion goal field rows champion)
    (h' : Champion goal field rows other) : champion = other := by
  cases h with
  | @intro front behind _ us vs u hfront hchampion hbehind better unbeaten =>
    generalize hrows : front ++ champion :: behind = rows at h'
    cases h' with
    | @intro front' behind' _ us' vs' u' hfront' hother hbehind' better' unbeaten' =>
      rcases List.append_eq_append_iff.1 hrows with ⟨gap, rfl, hgap⟩ | ⟨gap, rfl, hgap⟩
      · rcases List.cons_eq_append_iff.1 hgap with ⟨-, h⟩ | ⟨mid, rfl, rfl⟩
        · exact (List.cons.inj h).1.symm
        · exact absurd better' (no_better_behind hfront hchampion hbehind unbeaten hfront' hother)
      · rcases List.cons_eq_append_iff.1 hgap with ⟨-, h⟩ | ⟨mid, rfl, rfl⟩
        · exact (List.cons.inj h).1
        · exact absurd better (no_better_behind hfront' hother hbehind' unbeaten' hfront hchampion)

end Champion

/-! ## What is printed -/

/-- The columns that an aggregate prints for the rows of one group. -/
inductive Prints : Aggregate → List Row → List (Nat × Bytes) → Prop
  | nothing {rows : List Row} : Prints .nothing rows []
  | count {column : Nat} {rows : List Row} :
    Prints (.count column) rows [(column, Aggregator.decimalBytes rows.length)]
  | sum {field column : Nat} {rows : List Row} {xs : List Numeric}
    (h : readings field rows = .ok xs) :
    Prints (.sum field column) rows [(column, (total xs).bytes)]
  | extremum {goal : Goal} {field column : Nat} {rows : List Row} {xs : List Numeric}
    (h : readings field rows = .ok xs) :
    Prints (.extremum goal field column) rows [(column, (best goal xs).bytes)]
  | bestRow {goal : Goal} {field : Nat} {carried : List CarriedField} {rows : List Row} {row : Row}
    {values : List Bytes} (hchampion : Champion goal field rows row)
    (hvalues : (carried.mapM fun c ↦ row.field c.field) = .ok values) :
    Prints (.bestRow goal field carried) rows ((carried.map CarriedField.column).zip values)
  | distinct {field column : Nat} {rows : List Row} {values : List Bytes}
    (h : (rows.mapM fun row ↦ row.field field) = .ok values) :
    Prints (.distinct field column) rows
      [(column, Aggregator.decimalBytes values.dedup.length)]

/-- The rows determine what is printed. -/
theorem Prints.unique {aggregate : Aggregate} {rows : List Row}
    {entries others : List (Nat × Bytes)} (h : Prints aggregate rows entries)
    (h' : Prints aggregate rows others) : entries = others := by
  cases h with
  | nothing => cases h'; rfl
  | count => cases h'; rfl
  | sum hxs =>
    cases h' with
    | sum hys => cases hxs.symm.trans hys; rfl
  | extremum hxs =>
    cases h' with
    | extremum hys => cases hxs.symm.trans hys; rfl
  | bestRow hchampion hvalues =>
    cases h' with
    | bestRow hother hothers =>
      cases hchampion.unique hother
      cases hvalues.symm.trans hothers
      rfl
  | distinct hxs =>
    cases h' with
    | distinct hys => cases hxs.symm.trans hys; rfl

/-- The columns that an aggregate prints. -/
def columns : Aggregate → List Nat
  | .nothing => []
  | .count column | .sum _ column | .extremum _ _ column | .distinct _ column => [column]
  | .bestRow _ _ carried => carried.map CarriedField.column

/-- Each column is printed once, in order. -/
theorem Prints.columns_eq {aggregate : Aggregate} {rows : List Row} {entries : List (Nat × Bytes)}
    (h : Prints aggregate rows entries) : entries.map Prod.fst = aggregate.columns := by
  cases h with
  | bestRow hchampion hvalues =>
    rw [List.map_fst_zip]
    · rfl
    · exact Nat.le_of_eq ((List.length_map _).trans (length_of_mapM hvalues).symm)
  | _ => rfl

end Aggregate

end Rollup
