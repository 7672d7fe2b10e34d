import Rollup.Output.Writer
import Rollup.Table.Grouping
import Rollup.Table.Notice

/-!
# Tables

A running pipeline is a chain of tables.  A table takes rows, and at the end is
told to finish; what it makes of the rows goes to the table behind it.

| Table | On a row | On finishing |
|---|---|---|
| `writer` | writes its fields as a line | flushes |
| `passthrough` | writes field 0 as a line | flushes |
| `recorder` | remembers it | remembers that, too |
| `filtered` | hands it on if all tests accept | hands that on |
| `projection` | hands some of its fields on | hands that on |
| `grouped` | takes it into its group | hands on a row for every group, then that |

A row on which something fails is not taken back: what the tables had done by
then stays done, and the chain can go on.  A grouped table that has finished
has no groups any more and can begin again.
-/

namespace Rollup

/-- Looks at a field, and accepts or refuses the row for it. -/
structure FieldTest where
  field : Nat
  accepts : Bytes → Bool

/-- Whether all tests accept the row, which is settled at the first that does not. -/
def FieldTest.allAccept (row : Row) : List FieldTest → Except Error Bool
  | [] => .ok true
  | test :: rest =>
    match row.field test.field with
    | .error e => .error e
    | .ok value => if test.accepts value then allAccept row rest else .ok false

/-- What a recorder has been told. -/
inductive Arrival where
  | row (fields : List Bytes)
  | finish
  deriving DecidableEq, Repr

/-- The groups of a stage and what is done with them. -/
structure GroupStage where
  grouping : Grouping
  bundle : Bundle
  /-- The rows so far, the refused ones too. -/
  rows : Nat
  order : GroupOrder

inductive Table where
  | writer (out : Writer)
  | passthrough (out : Writer)
  | recorder (arrivals : Array Arrival)
  | filtered (tests : List FieldTest) (dropped : Nat) (inner : Table)
  | projection (fields : List Nat) (columns : Columns) (next : Table)
  | grouped (stage : GroupStage) (columns : Columns) (next : Table)

namespace Table

variable [NumberReader]

/-- Gives a row to a table. -/
def push (table : Table) (row : Row) : Step Error Table :=
  match table with
  | .writer out =>
    match row.fields with
    | .error e => .failed (.writer out) e
    | .ok fields => (out.writeRow fields).map .writer
  | .passthrough out =>
    match row.field 0 with
    | .error e => .failed (.passthrough out) e
    | .ok value => (out.writeLine value).map .passthrough
  | .recorder arrivals =>
    match row.fields with
    | .error e => .failed (.recorder arrivals) e
    | .ok fields => .done (.recorder (arrivals.push (.row fields)))
  | .filtered tests dropped inner =>
    match FieldTest.allAccept row tests with
    | .error e => .failed (.filtered tests dropped inner) e
    | .ok true => (inner.push row).map (.filtered tests dropped)
    | .ok false => .done (.filtered tests (dropped + 1) inner)
  | .projection fields columns next =>
    let filling := Step.each (fun columns (column, field) ↦
      .ofExcept columns (do columns.put column (← row.field field)))
      (fields.zipIdx.map fun (field, column) ↦ (column, field)) columns
    match filling.outcome with
    | .error e => .failed (.projection fields filling.state next) e
    | .ok _ => (next.push (.ofFields filling.state.toList)).map (.projection fields filling.state)
  | .grouped stage columns next =>
    let step := stage.grouping.push stage.bundle row
    let stage : GroupStage :=
      { stage with grouping := step.state.1, bundle := step.state.2, rows := stage.rows + 1 }
    ⟨.grouped stage columns next, step.outcome⟩

/-- Fills the columns for a group and gives them to a table as a row. -/
def emitGroup (stage : GroupStage) (state : Columns × Table) (entry : Bytes × Buffer) :
    Step Error (Columns × Table) :=
  let filling := stage.grouping.fill stage.bundle state.1 entry
  match filling.outcome with
  | .error e => .failed (filling.state, state.2) e
  | .ok _ => (state.2.push (.ofFields filling.state.toList)).map fun next ↦ (filling.state, next)

/-- Gives a row for every group to a table.  Without keys there has to be a
group, for the aggregates of no rows are not known. -/
def emitGroups (stage : GroupStage) (columns : Columns) (next : Table) :
    Step Error (Columns × Table) :=
  if stage.grouping.keys.isEmpty && stage.grouping.size = 0 then .failed (columns, next) .noData
  else Step.each (emitGroup stage) (stage.grouping.ordered stage.order) (columns, next)

/-! ### Chains keep their length -/

/-- The number of tables behind this one. -/
def depth : Table → Nat
  | .writer _ | .passthrough _ | .recorder _ => 0
  | .filtered _ _ inner => inner.depth + 1
  | .projection _ _ next => next.depth + 1
  | .grouped _ _ next => next.depth + 1

@[simp] theorem depth_push (table : Table) (row : Row) :
    (table.push row).state.depth = table.depth := by
  induction table generalizing row with
  | writer out => simp only [push]; split <;> rfl
  | passthrough out => simp only [push]; split <;> rfl
  | recorder arrivals => simp only [push]; split <;> rfl
  | filtered tests dropped inner ih =>
    simp only [push]
    split
    · rfl
    · simp [depth, ih]
    · rfl
  | projection fields columns next ih =>
    simp only [push]
    split
    · rfl
    · simp [depth, ih]
  | grouped stage columns next ih => rfl

theorem depth_emitGroups (stage : GroupStage) (columns : Columns) (next : Table) :
    (emitGroups stage columns next).state.2.depth = next.depth := by
  unfold emitGroups
  split
  · rfl
  · refine Step.each_invariant
      (p := fun state : Columns × Table ↦ state.2.depth = next.depth) ?_ _ rfl
    intro state entry h
    simp only [emitGroup]
    split
    · exact h
    · simpa using h

/-! ### Finishing -/

/-- Tells a table that there are no more rows.  The notices are those given on
the way, in order. -/
def finish (table : Table) : Step Error Table × List Notice :=
  match table with
  | .writer out => (out.flush.map .writer, [])
  | .passthrough out => (out.flush.map .passthrough, [])
  | .recorder arrivals => (.done (.recorder (arrivals.push .finish)), [])
  | .filtered tests dropped inner =>
    let closing := inner.finish
    (closing.1.map (.filtered tests dropped), .dropped dropped :: closing.2)
  | .projection fields columns next =>
    let closing := next.finish
    (closing.1.map (.projection fields columns), closing.2)
  | .grouped stage columns next =>
    let notice := Notice.rendering stage.grouping.size stage.rows
    let emitting := emitGroups stage columns next
    match emitting.outcome with
    | .error e => (.failed (.grouped stage emitting.state.1 emitting.state.2) e, [notice])
    | .ok _ =>
      have := depth_emitGroups stage columns next
      let closing := emitting.state.2.finish
      (closing.1.map
        (.grouped { stage with grouping := stage.grouping.clear } emitting.state.1),
        notice :: closing.2)
  termination_by table.depth
  decreasing_by all_goals simp only [depth]; omega

end Table

end Rollup
