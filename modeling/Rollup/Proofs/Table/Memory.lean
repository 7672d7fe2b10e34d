import Mathlib.Data.List.Induction
import Rollup.Proofs.Table.Summary

/-!
# What is remembered of a group

An aggregator keeps what it knows about a group in three places: an accumulator, an
arena and a set.  A `Memory` is the same in one piece, and of one group only.
`Memory.start` and `Memory.absorb` do with it what an aggregator does with the first row
and with a further row of the group, also where it refuses the row.

| Question | Answer |
|---|---|
| what is printed of a memory | `Memory.entries` |
| what is remembered of rows that were all taken in | `Memory.ofRows` |
| how rows and memory then belong together | `Memory.Tells`, `tells_of_ofRows` |

A row that is refused can leave a memory that no rows lead to: the value of one row
beside the carried fields of another.
-/

namespace Rollup

open Outcome Aggregate Aggregator

/-- What is to be remembered of a group. -/
inductive Memory where
  | nothing
  | count (rows : Nat)
  | numeric (x : Numeric)
  | bestRow (value : Numeric) (fields : List Bytes)
  /-- The values of all rows, with their repetitions. -/
  | distinct (values : List Bytes)
  deriving DecidableEq, Repr

namespace Memory

/-- The carried fields of a row, if they can be kept. -/
def carriedFields (carried : List CarriedField) (row : Row) : Except Error (List Bytes) := do
  let fields ← carried.mapM fun c ↦ row.field c.field
  let blob ← Blob.encode fields
  (Arena.entry blob).map fun _ ↦ fields

theorem carriedFields_eq_ok {carried : List CarriedField} {row : Row} {fields : List Bytes} :
    carriedFields carried row = .ok fields ↔
      (carried.mapM fun c ↦ row.field c.field) = .ok fields ∧
        ∃ blob e, Blob.encode fields = .ok blob ∧ Arena.entry blob = .ok e := by
  simp only [carriedFields, bind_eq_ok, map_eq_ok]
  constructor
  · rintro ⟨_, hfields, blob, hblob, e, he, rfl⟩
    exact ⟨hfields, blob, e, hblob, he⟩
  · rintro ⟨hfields, blob, e, hblob, he⟩
    exact ⟨fields, hfields, blob, hblob, e, he, rfl⟩

variable [NumberReader]

/-- What is remembered of a group's first row. -/
def start (aggregate : Aggregate) (row : Row) : Except Error Memory :=
  match aggregate with
  | .nothing => .ok .nothing
  | .count _ => .ok (.count 1)
  | .sum field _ => (number row field).map fun x ↦ .numeric ((Numeric.int 0).add x)
  | .extremum _ field _ => (number row field).map .numeric
  | .bestRow _ field carried => do
    let x ← number row field
    (carriedFields carried row).map (.bestRow x)
  | .distinct field _ => (row.field field).map fun value ↦ .distinct [value]

/-- What is remembered after a further row. -/
def absorb (aggregate : Aggregate) (row : Row) (m : Memory) : Step Error Memory :=
  match aggregate, m with
  | .nothing, .nothing => .done .nothing
  | .count _, .count rows =>
    if rows < maxRows then .done (.count (rows + 1)) else .failed m (.outOfRange .counter)
  | .sum field _, .numeric total =>
    .ofExcept m ((number row field).map fun x ↦ .numeric (total.add x))
  | .extremum goal field _, .numeric best =>
    .ofExcept m ((number row field).map fun x ↦ .numeric (best.improve goal x))
  | .bestRow goal field carried, .bestRow best fields =>
    match number row field with
    | .error e => .failed m e
    | .ok x => match best.improvement? goal x with
      | none => .done m
      | some better =>
        .ofExcept (.bestRow better fields) ((carriedFields carried row).map (.bestRow better))
  | .distinct field _, .distinct values =>
    match row.field field with
    | .error e => .failed m e
    | .ok value =>
      if value ∈ values ∨ values.dedup.length < maxDistinct then
        .done (.distinct (values ++ [value]))
      else .failed m (.outOfRange .counter)
  | _, _ => .failed m (.outOfRange .slot)

/-- The columns that an aggregate prints for a memory. -/
def entries (aggregate : Aggregate) (m : Memory) : List (Nat × Bytes) :=
  match aggregate, m with
  | .count column, .count rows => [(column, decimalBytes rows)]
  | .sum _ column, .numeric total => [(column, total.bytes)]
  | .extremum _ _ column, .numeric best => [(column, best.bytes)]
  | .bestRow _ _ carried, .bestRow _ fields => (carried.map CarriedField.column).zip fields
  | .distinct _ column, .distinct values => [(column, decimalBytes values.dedup.length)]
  | _, _ => []

/-! ## Rows that are taken in -/

/-- What is remembered of some rows of a group, if all of them are taken in. -/
def ofRows (aggregate : Aggregate) : List Row → Except Error Memory
  | [] => .error .noData
  | first :: rest => do
    let m ← start aggregate first
    rest.foldlM (fun m row ↦ (m.absorb aggregate row).result) m

theorem ofRows_singleton (aggregate : Aggregate) (row : Row) :
    ofRows aggregate [row] = start aggregate row := by
  rw [ofRows]
  cases start aggregate row <;> rfl

theorem ofRows_snoc {aggregate : Aggregate} {rows : List Row} (hne : rows ≠ []) (row : Row) :
    ofRows aggregate (rows ++ [row]) =
      ofRows aggregate rows >>= fun m ↦ (m.absorb aggregate row).result := by
  cases rows with
  | nil => exact absurd rfl hne
  | cons first rest =>
    simp only [List.cons_append, ofRows, List.foldlM_append, List.foldlM_cons, List.foldlM_nil,
      bind_pure, bind_assoc]

theorem ofRows_snoc_of_done {aggregate : Aggregate} {rows : List Row} {row : Row} {m m' : Memory}
    (hne : rows ≠ []) (hm : ofRows aggregate rows = .ok m)
    (hrow : m.absorb aggregate row = .done m') : ofRows aggregate (rows ++ [row]) = .ok m' := by
  rw [ofRows_snoc hne, hm, ok_bind, hrow]
  rfl

/-- What is taken in, is taken in one row after the other. -/
theorem absorb_of_ofRows_snoc {aggregate : Aggregate} {rows : List Row} {row : Row} {m' : Memory}
    (hne : rows ≠ []) (h : ofRows aggregate (rows ++ [row]) = .ok m') :
    ∃ m, ofRows aggregate rows = .ok m ∧ m.absorb aggregate row = .done m' := by
  rw [ofRows_snoc hne] at h
  obtain ⟨m, hm, hrow⟩ := bind_eq_ok.1 h
  exact ⟨m, hm, Step.result_eq_ok.1 hrow⟩

theorem ne_nil_of_ofRows {aggregate : Aggregate} {rows : List Row} {m : Memory}
    (h : ofRows aggregate rows = .ok m) : rows ≠ [] := by
  rintro rfl
  cases h

/-! ### What the rows tell -/

/-- The memory tells what there is to know about the rows of a group. -/
inductive Tells (rows : List Row) : Aggregate → Memory → Prop
  | nothing : Tells rows .nothing .nothing
  | count {column : Nat} : Tells rows (.count column) (.count rows.length)
  | sum {field column : Nat} {xs : List Numeric} (h : readings field rows = .ok xs) :
    Tells rows (.sum field column) (.numeric (total xs))
  | extremum {goal : Goal} {field column : Nat} {y : Numeric} {ys : List Numeric}
    (h : readings field rows = .ok (y :: ys)) :
    Tells rows (.extremum goal field column) (.numeric (best goal (y :: ys)))
  | bestRow {goal : Goal} {field : Nat} {carried : List CarriedField} {y : Numeric}
    {ys : List Numeric} {row : Row} {fields : List Bytes} (h : readings field rows = .ok (y :: ys))
    (champion : Champion goal field rows row)
    (hfields : (carried.mapM fun c ↦ row.field c.field) = .ok fields) :
    Tells rows (.bestRow goal field carried) (.bestRow (best goal (y :: ys)) fields)
  | distinct {field column : Nat} {values : List Bytes}
    (h : (rows.mapM fun row ↦ row.field field) = .ok values) :
    Tells rows (.distinct field column) (.distinct values)

theorem tells_of_start {aggregate : Aggregate} {row : Row} {m : Memory}
    (h : start aggregate row = .ok m) : Tells [row] aggregate m := by
  cases aggregate with
  | nothing =>
    cases h
    exact .nothing
  | count column =>
    cases h
    exact .count
  | sum field column =>
    obtain ⟨x, hx, rfl⟩ := map_eq_ok.1 h
    exact .sum (mapM_cons_eq_ok.2 ⟨x, [], hx, rfl, rfl⟩)
  | extremum goal field column =>
    obtain ⟨x, hx, rfl⟩ := map_eq_ok.1 h
    exact .extremum (mapM_cons_eq_ok.2 ⟨x, [], hx, rfl, rfl⟩)
  | bestRow goal field carried =>
    obtain ⟨x, hx, h⟩ := bind_eq_ok.1 h
    obtain ⟨fields, hfields, rfl⟩ := map_eq_ok.1 h
    exact .bestRow (mapM_cons_eq_ok.2 ⟨x, [], hx, rfl, rfl⟩) (.singleton hx)
      (carriedFields_eq_ok.1 hfields).1
  | distinct field column =>
    obtain ⟨value, hvalue, rfl⟩ := map_eq_ok.1 h
    exact .distinct (mapM_cons_eq_ok.2 ⟨value, [], hvalue, rfl, rfl⟩)

section Further

variable {rows : List Row} {row : Row} {m m' : Memory} {goal : Goal} {field : Nat}
  {carried : List CarriedField} {y : Numeric} {ys : List Numeric} {fields : List Bytes}
  {champion : Row}

theorem tells_bestRow (hys : readings field rows = .ok (y :: ys))
    (hchampion : Champion goal field rows champion)
    (hfields : (carried.mapM fun c ↦ champion.field c.field) = .ok fields)
    (h : absorb (.bestRow goal field carried) row (.bestRow (best goal (y :: ys)) fields) =
      .done m') : Tells (rows ++ [row]) (.bestRow goal field carried) m' := by
  unfold absorb at h
  dsimp only at h
  cases hx : number row field with
  | error e =>
    rw [hx] at h
    cases h
  | ok x =>
    rw [hx] at h
    dsimp only at h
    have hreadings : readings field (rows ++ [row]) = .ok (y :: (ys ++ [x])) :=
      mapM_snoc_eq_ok hys hx
    cases hbetter : (best goal (y :: ys)).improvement? goal x with
    | none =>
      rw [hbetter] at h
      cases h
      rw [← best_snoc_of_none hbetter]
      exact .bestRow hreadings (hchampion.snoc_of_none hys hx hbetter) hfields
    | some better =>
      rw [hbetter] at h
      obtain ⟨fields', hfields', rfl⟩ := map_eq_ok.1 (Step.ofExcept_eq_done.1 h)
      have hnew : Champion goal field (rows ++ [row]) row :=
        .snoc_of_some hys hx (by rw [hbetter]; rfl)
      rw [← best_snoc_of_some hbetter]
      exact .bestRow hreadings hnew (carriedFields_eq_ok.1 hfields').1

theorem tells_distinct {column : Nat} {values : List Bytes}
    (hvalues : (rows.mapM fun row ↦ row.field field) = .ok values)
    (h : absorb (.distinct field column) row (.distinct values) = .done m') :
    Tells (rows ++ [row]) (.distinct field column) m' := by
  unfold absorb at h
  dsimp only at h
  cases hvalue : row.field field with
  | error e =>
    rw [hvalue] at h
    cases h
  | ok value =>
    rw [hvalue] at h
    dsimp only at h
    split at h <;> cases h
    exact .distinct (mapM_snoc_eq_ok hvalues hvalue)

/-- A further row that is taken in is told with the others. -/
theorem Tells.absorb {aggregate : Aggregate} (hm : Tells rows aggregate m)
    (h : m.absorb aggregate row = .done m') : Tells (rows ++ [row]) aggregate m' := by
  cases hm with
  | nothing =>
    cases h
    exact .nothing
  | count =>
    unfold Memory.absorb at h
    dsimp only at h
    split at h <;> cases h
    rw [← List.length_singleton (a := row), ← List.length_append]
    exact .count
  | sum hxs =>
    obtain ⟨x, hx, rfl⟩ := map_eq_ok.1 (Step.ofExcept_eq_done.1 h)
    rw [← total_snoc]
    exact .sum (mapM_snoc_eq_ok hxs hx)
  | extremum hys =>
    obtain ⟨x, hx, rfl⟩ := map_eq_ok.1 (Step.ofExcept_eq_done.1 h)
    rw [← best_snoc]
    exact .extremum (mapM_snoc_eq_ok hys hx)
  | bestRow hys hchampion hfields => exact tells_bestRow hys hchampion hfields h
  | distinct hvalues => exact tells_distinct hvalues h

end Further

/-- What is remembered of rows tells them. -/
theorem tells_of_ofRows {aggregate : Aggregate} {rows : List Row} {m : Memory}
    (h : ofRows aggregate rows = .ok m) : Tells rows aggregate m := by
  induction rows using List.reverseRecOn generalizing m with
  | nil => cases h
  | append_singleton rows row ih =>
    by_cases hne : rows = []
    · subst hne
      rw [List.nil_append, ofRows_singleton] at h
      exact tells_of_start h
    · obtain ⟨m₀, hm₀, hrow⟩ := absorb_of_ofRows_snoc hne h
      exact (ih hm₀).absorb hrow

/-- What is printed of a memory is what the rows come to that it tells. -/
theorem Tells.prints {aggregate : Aggregate} {rows : List Row} {m : Memory}
    (h : Tells rows aggregate m) : Prints aggregate rows (m.entries aggregate) := by
  cases h with
  | nothing => exact .nothing
  | count => exact .count
  | sum h => exact .sum h
  | extremum h => exact .extremum h
  | bestRow _ champion hfields => exact .bestRow champion hfields
  | distinct h => exact .distinct h

end Memory

end Rollup
