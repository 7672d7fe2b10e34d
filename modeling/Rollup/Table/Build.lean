import Rollup.Table.Basic

/-!
# Building the tables of a pipeline

`Pipeline.build` makes a chain of tables that runs a pipeline.  It works on the
normal form, and from the last stage to the first, since a table is made with
the one behind it in hand; so of several faults it reports the one furthest to
the end.

Two things are parameters, because nothing may depend on them: how a pattern is
understood, and in which order each aggregating stage renders its groups.  The
aggregating stages are counted from the front.
-/

namespace Rollup

/-- Gives a pattern its meaning: which values it accepts. -/
abbrev PatternEngine := String → Except Pattern.Fault (Bytes → Bool)

namespace Table

/-! ## Single tables -/

/-- Groups rows and applies a bundle of aggregators to every group. -/
def grouping (keys : List Key) (bundle : Bundle) (order : GroupOrder) (width : Nat)
    (next : Table) : Table :=
  .grouped ⟨.new keys, bundle, 0, order⟩ (.blank width) next

/-- Prints every group once. -/
def distinct (keys : List Key) (order : GroupOrder) (width : Nat) (next : Table) :
    Except Error Table :=
  if keys.isEmpty then .error (.defect .noKeys)
  else .ok (.grouping keys (.single .nothing) order width next)

/-- Several aggregates over the same groups. -/
def packed (keys : List Key) (aggregates : List Aggregate) (order : GroupOrder) (width : Nat)
    (next : Table) : Except Error (Table × List Notice) := do
  let (bundle, layout) ← Bundle.packed aggregates
  return (.grouping keys bundle order width next,
    [.packing (Bundle.slotSizes aggregates) layout bundle.capacity])

/-- Aggregates over groups, by whichever kind of table their number needs. -/
def aggregating (keys : List Key) (aggregates : List Aggregate) (order : GroupOrder)
    (width : Nat) (next : Table) : Except Error (Table × List Notice) :=
  match aggregates with
  | [] => (distinct keys order width next).map fun table ↦ (table, [])
  | [aggregate] => .ok (.grouping keys (.single aggregate) order width next, [])
  | _ => packed keys aggregates order width next

/-- Puts filters in front of a table. -/
def withFilters (engine : PatternEngine) (filters : List Filter) (inner : Table) :
    Except Error Table :=
  if filters.isEmpty then .ok inner
  else
    let compiled := filters.mapM fun f ↦ (engine f.pattern).map (FieldTest.mk f.field)
    match compiled with
    | .error fault => .error (.pattern fault)
    | .ok tests => .ok (.filtered tests 0 inner)

end Table

/-! ## Columns -/

/-- The keys and aggregates of a stage with their columns. -/
structure Assignment where
  keys : List Key
  aggregates : List Aggregate
  /-- The number of columns. -/
  width : Nat
  deriving DecidableEq, Repr

/-- The aggregate for a component whose first column is `column`; none for a
key. -/
def Component.aggregate? (column : Nat) : Component → Except Error (Option Aggregate)
  | .key _ => .ok none
  | .sum field => .ok (some (.sum field column))
  | .extremum _ [] => .error (.defect .noValueField)
  | .extremum goal [field] => .ok (some (.extremum goal field column))
  | .extremum goal (field :: next :: rest) =>
    .ok (some (.bestRow goal field ((next :: rest).zipIdx.map fun (carried, i) ↦
      ⟨carried, column + i⟩)))
  | .count => .ok (some (.count column))
  | .distinct field => .ok (some (.distinct field column))

/-- Gives the components their columns, one after the other from `column` on. -/
def Assignment.from (column : Nat) : List Component → Except Error Assignment
  | [] => .ok ⟨[], [], column⟩
  | c :: rest =>
    match c.aggregate? column with
    | .error e => .error e
    | .ok aggregate =>
      (Assignment.from (column + c.width) rest).map fun behind ↦ match c, aggregate with
        | .key field, _ => { behind with keys := ⟨field, column⟩ :: behind.keys }
        | _, some a => { behind with aggregates := a :: behind.aggregates }
        | _, none => behind

/-! ## Stages -/

namespace Stage

/-- A stage without its filters. -/
def buildBody (body : Body) (order : GroupOrder) (next : Table) :
    Except Error (Table × List Notice) :=
  match body with
  | .project [] =>
    match next with
    | .writer out => .ok (.passthrough out, [])
    | _ => .error (.defect .implicitInside)
  | .project fields => .ok (.projection fields (.blank fields.length) next, [])
  | .aggregate components => do
    let assignment ← Assignment.from 0 components
    if assignment.width = 0 then throw (.defect .noColumns)
    let (table, notices) ← Table.aggregating assignment.keys assignment.aggregates order
      assignment.width next
    return (table,
      .aggregating assignment.keys.length assignment.aggregates assignment.width :: notices)

/-- A stage in front of the table `next`. -/
def build (engine : PatternEngine) (order : GroupOrder) (stage : Stage) (next : Table) :
    Except Error (Table × List Notice) := do
  let (table, notices) ← buildBody stage.body order next
  let table ← Table.withFilters engine stage.filters table
  return (table, notices)

/-- Whether the stage has groups. -/
def isAggregating (stage : Stage) : Bool :=
  match stage.body with
  | .project _ => false
  | .aggregate _ => true

end Stage

namespace Pipeline

/-- The tables of some stages in front of the table `last`.  Of the aggregating
stages `rank` stand in front of them. -/
def buildStages (engine : PatternEngine) (orders : Nat → GroupOrder) (last : Table) :
    (rank : Nat) → List Stage → Except Error (Table × List Notice)
  | _, [] => .ok (last, [])
  | rank, stage :: rest => do
    let (next, behind) ←
      buildStages engine orders last (if stage.isAggregating then rank + 1 else rank) rest
    let (table, notices) ← stage.build engine (orders rank) next
    return (table, behind ++ notices)

/-- The tables that run a pipeline and write its output with `out`. -/
def build (engine : PatternEngine) (orders : Nat → GroupOrder) (p : Pipeline) (out : Writer) :
    Except Error (Table × List Notice) := do
  let p := p.normalize
  let (table, notices) ← buildStages engine orders (.writer out) 0 p.stages
  return (table, .compiling p :: notices)

end Pipeline

end Rollup
