import Rollup.Processor

/-!
# What a pipeline means

The meaning of a pipeline is given stage by stage, each stage taking all records
of the one before it.

| Stage | Makes of the records that all its filters match |
|---|---|
| implicit, before the end | the same records |
| implicit, at the end | field 0 of each |
| projecting | the listed fields of each |
| aggregating | the rows that its own table gives when it is given them alone |

There are no chains of tables here, and no filters move.
-/

namespace Rollup

/-- The fields of a row. -/
abbrev Record := List Bytes

namespace Record

/-- A field, which is empty behind the last one. -/
def field (record : Record) (index : Nat) : Bytes := record[index]?.getD []

/-- Whether all tests accept the record. -/
def passes (tests : List FieldTest) (record : Record) : Bool :=
  tests.all fun test ↦ test.accepts (record.field test.field)

/-- The records as lines of fields. -/
def printed (records : List Record) : Bytes :=
  records.flatMap fun record ↦ Writer.tabbed record ++ [0x0A]

end Record

/-- Gives rows to a table and tells it that there are no more. -/
def Table.drain [NumberReader] (rows : List Row) (table : Table) : Step Error Table :=
  (Step.each push rows table).andThen fun table ↦ table.finish.1

/-- The records that a recorder has been given. -/
def Arrival.record? : Arrival → Option Record
  | .row fields => some fields
  | .finish => none

/-! ## Stages -/

namespace Stage

/-- The tests that filters stand for. -/
def testsOf (engine : PatternEngine) (filters : List Filter) : Except Error (List FieldTest) :=
  filters.mapM fun f ↦ match engine f.pattern with
    | .ok accepts => .ok ⟨f.field, accepts⟩
    | .error fault => .error (.pattern fault)

/-- The rows for the groups of some records, one for each group. -/
def grouped [NumberReader] (components : List Component) (order : GroupOrder)
    (records : List Record) : Except Error (List Record) := do
  let (table, _) ← buildBody (.aggregate components) order (.recorder #[])
  let run := table.drain (records.map Row.ofFields)
  match run.outcome with
  | .error e => .error e
  | .ok _ => return run.state.arrivals.toList.filterMap Arrival.record?

/-- What a stage makes of the records that its filters keep. -/
def bodyMeaning [NumberReader] (order : GroupOrder) (isLast : Bool) (body : Body)
    (records : List Record) : Except Error (List Record) :=
  match body with
  | .project [] => .ok (if isLast then records.map fun record ↦ [record.field 0] else records)
  | .project fields => .ok (records.map fun record ↦ fields.map record.field)
  | .aggregate components => grouped components order records

/-- What a stage makes of records. -/
def meaning [NumberReader] (engine : PatternEngine) (order : GroupOrder) (isLast : Bool)
    (stage : Stage) (records : List Record) : Except Error (List Record) := do
  let tests ← testsOf engine stage.filters
  bodyMeaning order isLast stage.body (records.filter (Record.passes tests))

end Stage

/-! ## Pipelines -/

namespace Pipeline

/-- What stages make of records, one after the other.  Of the aggregating stages
`rank` stand in front of them. -/
def meaningFrom [NumberReader] (engine : PatternEngine) (orders : Nat → GroupOrder) :
    (rank : Nat) → List Stage → List Record → Except Error (List Record)
  | _, [], records => .ok records
  | rank, stage :: rest, records => do
    let made ← stage.meaning engine (orders rank) rest.isEmpty records
    meaningFrom engine orders (if stage.isAggregating then rank + 1 else rank) rest made

/-- The output of a pipeline for some lines of input. -/
def meaning [NumberReader] (engine : PatternEngine) (orders : Nat → GroupOrder) (p : Pipeline)
    (lines : List Bytes) : Except Error Bytes := do
  let records ← lines.mapM fun line ↦ (Row.ofLine line).fields
  let made ← meaningFrom engine orders 0 p.stages records
  return Record.printed made

end Pipeline

end Rollup
