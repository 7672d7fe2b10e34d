import Rollup.Number.Standard
import Rollup.Processor
import Rollup.Proofs.Row
import Rollup.Proofs.Table.Intact
import Rollup.Proofs.Table.NormalShape

/-!
# Printing field 0 in two ways

An implicit last stage writes field 0 of a row itself.  A last stage that prints field 0, and
nothing else, does it in two tables: a projection, which puts the field into its only column, and
a writer behind it.  A chain of the first kind is shown by one of the second kind
(`Table.ShownBy`), and whatever both are asked to do, they end alike, have called their
sinks alike, and the one is shown by the other afterwards (`ShownBy.serve`).  So the sinks
have the same record after every request (`ShownBy.trace_eq`).

| | |
|---|---|
| a row | `ShownBy.push` |
| all groups of a stage | `ShownBy.emitGroups` |
| the end of the rows | `ShownBy.finish` |
| building both | `Pipeline.shownBy_buildStages` |

Before a pipeline is built it is made normal, and then its last stage may have been given
filters of stages in front of it, but it is still the last one
(`exists_normalize_concat`).
-/

namespace Rollup

open Outcome

namespace Table

/-! ## Two ways to end a chain -/

/-- The second chain is the first one with a projection to field 0, and a writer behind it, where
the first one writes field 0. -/
inductive ShownBy : Table → Table → Prop
  | last (out : Writer) {columns : Columns} (hsize : columns.size = 1) :
    ShownBy (.passthrough out) (.projection [0] columns (.writer out))
  | filtered (tests : List FieldTest) (dropped : Nat) {t u : Table} (h : ShownBy t u) :
    ShownBy (.filtered tests dropped t) (.filtered tests dropped u)
  | projection (fields : List Nat) (columns : Columns) {t u : Table} (h : ShownBy t u) :
    ShownBy (.projection fields columns t) (.projection fields columns u)
  | grouped (stage : GroupStage) (columns : Columns) {t u : Table} (h : ShownBy t u) :
    ShownBy (.grouped stage columns t) (.grouped stage columns u)

/-- What comes of every request, and the sink as it is then. -/
def trace [NumberReader] (table : Table) : List Request → List (Except Error Unit × Option Sink)
  | [] => []
  | request :: rest =>
    let step := table.serve request
    (step.outcome, step.state.sink?) :: step.state.trace rest

/-- The only column takes the value whatever it was before. -/
theorem put_zero {columns : Columns} (h : columns.size = 1) (value : Bytes) :
    columns.put 0 value = .ok #[value] := by
  obtain ⟨old, rfl⟩ := Array.size_eq_one_iff.1 h
  rfl

theorem push_projection_zero [NumberReader] {columns : Columns} (h : columns.size = 1)
    (next : Table) (row : Row) :
    push (.projection [0] columns next) row =
      match row.field 0 with
      | .error e => .failed (.projection [0] columns next) e
      | .ok value => (next.push (.ofFields [value])).map (.projection [0] #[value]) := by
  rw [push]
  cases hfield : row.field 0 with
  | error e =>
    simp [hfield, bind, Except.bind, Step.ofExcept]
  | ok value =>
    simp [hfield, bind, Except.bind, Step.ofExcept, put_zero h]

theorem push_writer_single [NumberReader] (out : Writer) (value : Bytes) :
    push (.writer out) (.ofFields [value]) = (out.writeLine value).map .writer := by
  rw [push, Row.fields_ofFields]
  rfl

namespace ShownBy

variable {t u : Table}

/-- Both chains have called the same sink in the same way. -/
theorem sink?_eq (h : ShownBy t u) : t.sink? = u.sink? := by
  induction h with
  | last => rfl
  | filtered _ _ _ ih => exact ih
  | projection _ _ _ ih => exact ih
  | grouped _ _ _ ih => exact ih

theorem ne_writer (h : ShownBy t u) (out : Writer) : t ≠ .writer out ∧ u ≠ .writer out := by
  cases h <;> exact ⟨Table.noConfusion, Table.noConfusion⟩

variable [NumberReader]

theorem push (h : ShownBy t u) (row : Row) : Step.Alike ShownBy (t.push row) (u.push row) := by
  induction h generalizing row with
  | last out hsize =>
    rw [push_projection_zero hsize, Table.push]
    cases row.field 0 with
    | error e => exact ⟨rfl, .last out hsize⟩
    | ok value =>
      dsimp only
      rw [push_writer_single]
      exact ⟨rfl, .last _ rfl⟩
  | filtered tests dropped h ih =>
    rw [Table.push, Table.push]
    rcases FieldTest.allAccept row tests with e | accepted
    · exact ⟨rfl, .filtered tests dropped h⟩
    · cases accepted with
      | false => exact ⟨rfl, .filtered tests (dropped + 1) h⟩
      | true =>
        obtain ⟨houtcome, hstate⟩ := ih row
        exact ⟨houtcome, .filtered tests dropped hstate⟩
  | projection fields columns h ih =>
    rw [Table.push, Table.push]
    dsimp only
    split
    · exact ⟨rfl, .projection fields _ h⟩
    · obtain ⟨houtcome, hstate⟩ := ih (.ofFields _)
      exact ⟨houtcome, .projection fields _ hstate⟩
  | grouped stage columns h => exact ⟨rfl, .grouped _ columns h⟩

/-- A stage that fills its columns in the same way hands the same rows to both chains. -/
theorem emitGroups (h : ShownBy t u) (stage : GroupStage) (columns : Columns) :
    Step.Alike (fun a b ↦ a.1 = b.1 ∧ ShownBy a.2 b.2) (Table.emitGroups stage columns t)
      (Table.emitGroups stage columns u) := by
  rw [Table.emitGroups, Table.emitGroups]
  split
  · exact ⟨rfl, rfl, h⟩
  · refine Step.Alike.each ?_ _ ⟨rfl, h⟩
    rintro ⟨columns, t⟩ ⟨_, u⟩ entry ⟨rfl, h⟩
    rw [emitGroup, emitGroup]
    dsimp only
    split
    · exact ⟨rfl, rfl, h⟩
    · obtain ⟨houtcome, hstate⟩ := h.push (.ofFields _)
      exact ⟨houtcome, rfl, hstate⟩

theorem finish (h : ShownBy t u) : Step.Alike ShownBy t.finish.1 u.finish.1 := by
  induction t using finish.induct generalizing u with
  | case1 out => exact absurd rfl (h.ne_writer out).1
  | case2 out =>
    cases h with
    | last _ hsize =>
      rw [Table.finish, Table.finish, Table.finish]
      exact ⟨rfl, .last _ hsize⟩
  | case3 arrivals => cases h
  | case4 tests dropped inner ih =>
    cases h with
    | filtered _ _ h =>
      rw [Table.finish, Table.finish]
      obtain ⟨houtcome, hstate⟩ := ih h
      exact ⟨houtcome, .filtered tests dropped hstate⟩
  | case5 fields columns next ih =>
    cases h with
    | projection _ _ h =>
      rw [Table.finish, Table.finish]
      obtain ⟨houtcome, hstate⟩ := ih h
      exact ⟨houtcome, .projection fields columns hstate⟩
  | case6 stage columns next emitting e =>
    rename_i hemitting
    cases h with
    | grouped _ _ h =>
      obtain ⟨houtcome, hcolumns, hstate⟩ := h.emitGroups stage columns
      rw [finish_grouped, finish_grouped, ← houtcome, hemitting, ← hcolumns]
      exact ⟨rfl, .grouped stage _ hstate⟩
  | case7 stage columns next emitting u' =>
    rename_i hemitting _ ih
    cases h with
    | grouped _ _ h =>
      obtain ⟨houtcome, hcolumns, hstate⟩ := h.emitGroups stage columns
      obtain ⟨hclosing, hclosed⟩ := ih hstate
      rw [finish_grouped, finish_grouped, ← houtcome, hemitting, ← hcolumns]
      exact ⟨hclosing, .grouped _ _ hclosed⟩

theorem serve (h : ShownBy t u) (request : Request) :
    Step.Alike ShownBy (t.serve request) (u.serve request) := by
  cases request with
  | push row => exact h.push row
  | finish => exact h.finish

/-- Both chains answer all requests alike, and call their sinks alike. -/
theorem trace_eq (h : ShownBy t u) (requests : List Request) :
    t.trace requests = u.trace requests := by
  induction requests generalizing t u with
  | nil => rfl
  | cons request rest ih =>
    obtain ⟨houtcome, hstate⟩ := h.serve request
    rw [trace, trace, houtcome, hstate.sink?_eq, ih hstate]

end ShownBy

theorem shownBy_withFilters {t u : Table} (h : ShownBy t u) (engine : PatternEngine)
    (filters : List Filter) :
    Outcome.Alike ShownBy (withFilters engine filters t) (withFilters engine filters u) := by
  rw [withFilters, withFilters]
  split
  · exact h
  · dsimp only
    split
    · exact rfl
    · exact .filtered _ 0 h

/-- Why groups cannot be made does not depend on the table behind them. -/
theorem verdict_aggregating_next (keys : List Key) (aggregates : List Aggregate)
    (order : GroupOrder) (width : Nat) (next next' : Table) :
    verdict (aggregating keys aggregates order width next) =
      verdict (aggregating keys aggregates order width next') := by
  match aggregates with
  | [] =>
    rw [aggregating, aggregating, verdict_map, verdict_map, distinct, distinct]
    split <;> rfl
  | [aggregate] => rfl
  | first :: second :: rest => exact verdict_bind_congr rfl fun _ _ _ _ ↦ rfl

end Table

/-! ## Building both chains -/

namespace Stage

open Table (ShownBy)

variable {t u : Table} {engine : PatternEngine}

theorem verdict_buildBody_next (components : List Component) (order : GroupOrder)
    (next next' : Table) :
    verdict (buildBody (.aggregate components) order next) =
      verdict (buildBody (.aggregate components) order next') := by
  refine verdict_bind_congr rfl fun a b ha hb ↦ ?_
  cases ha.symm.trans hb
  split
  · rfl
  · exact verdict_bind_congr (Table.verdict_aggregating_next ..) fun _ _ _ _ ↦ rfl

theorem shownBy_buildBody (h : ShownBy t u) (body : Body) (order : GroupOrder) :
    Outcome.Alike (fun a b ↦ ShownBy a.1 b.1) (buildBody body order t)
      (buildBody body order u) := by
  match body with
  | .project [] =>
    have himplicit {next : Table} (hnext : ∀ out, next ≠ .writer out) :
        buildBody (.project []) order next = .error (.defect .implicitInside) := by
      rw [buildBody.eq_def]
      dsimp only
      split
      · exact absurd rfl (hnext _)
      · rfl
    rw [himplicit fun out ↦ (h.ne_writer out).1, himplicit fun out ↦ (h.ne_writer out).2]
    exact rfl
  | .project (field :: fields) => exact .projection _ _ h
  | .aggregate components =>
    cases hbuild : buildBody (.aggregate components) order t with
    | ok built =>
      obtain ⟨a, bundle, -, -, -, hgrouping, hall⟩ := buildBody_eq_ok hbuild
      rw [hall order u]
      show ShownBy built.1 _
      rw [hgrouping]
      exact .grouped _ _ h
    | error e =>
      have hverdict := verdict_buildBody_next components order t u
      rw [hbuild] at hverdict
      rw [verdict_eq_error.1 hverdict.symm]
      exact rfl

/-- A stage with these filters in front of both chains. -/
theorem shownBy_build {filters : List Filter} {body body' : Body} {order : GroupOrder}
    {next next' : Table}
    (h : Outcome.Alike (fun a b ↦ ShownBy a.1 b.1) (buildBody body order next)
      (buildBody body' order next')) :
    Outcome.Alike (fun a b ↦ ShownBy a.1 b.1) (build engine order ⟨filters, body⟩ next)
      (build engine order ⟨filters, body'⟩ next') :=
  h.bind fun _ _ hbuilt ↦ (Table.shownBy_withFilters hbuilt engine filters).bind fun _ _ h ↦ h

end Stage

namespace Pipeline

open Table (ShownBy)

variable {engine : PatternEngine} {orders : Nat → GroupOrder}

/-- The stages in front make the same tables for both ends. -/
theorem shownBy_buildStages (front : List Stage) (filters : List Filter) (out : Writer)
    (rank : Nat) :
    Outcome.Alike (fun a b ↦ ShownBy a.1 b.1)
      (buildStages engine orders (.writer out) rank (front ++ [⟨filters, .project []⟩]))
      (buildStages engine orders (.writer out) rank (front ++ [⟨filters, .project [0]⟩])) := by
  induction front generalizing rank with
  | nil =>
    have hlast : Outcome.Alike (fun a b ↦ ShownBy a.1 b.1)
        (Stage.buildBody (.project []) (orders rank) (.writer out))
        (Stage.buildBody (.project [0]) (orders rank) (.writer out)) := .last out rfl
    exact (Stage.shownBy_build hlast).bind fun _ _ h ↦ h
  | cons stage front ih =>
    refine (ih _).bind fun next next' hnext ↦ ?_
    exact (Stage.shownBy_build (Stage.shownBy_buildBody hnext _ _)).bind fun _ _ h ↦ h

/-! ## Normal forms that end in a given stage -/

/-- What happens to the filters of the stages in front does not depend on the last stage. -/
theorem exists_handOn_concat (pending : List Filter) (front : List Stage) :
    ∃ stages waiting, (∀ s ∈ stages, s.isImplicit = false) ∧
      (front = [] → stages = [] ∧ waiting = pending) ∧
      ∀ last : Stage, handOn pending (front ++ [last]) =
        stages ++ [{ last with filters := waiting ++ last.filters }] := by
  induction front generalizing pending with
  | nil => exact ⟨[], pending, List.forall_mem_nil _, fun _ ↦ ⟨rfl, rfl⟩, fun _ ↦ rfl⟩
  | cons s front ih =>
    have hcons (last : Stage) : handOn pending (s :: front ++ [last]) =
        if s.isImplicit then handOn (pending ++ s.filters) (front ++ [last])
        else { s with filters := pending ++ s.filters } :: handOn [] (front ++ [last]) := by
      obtain ⟨next, rest, hrest⟩ := List.exists_cons_of_ne_nil
        (List.append_ne_nil_of_right_ne_nil front (List.cons_ne_nil last []))
      rw [List.cons_append, hrest, handOn]
    cases himplicit : s.isImplicit with
    | true =>
      obtain ⟨stages, waiting, hstages, -, hall⟩ := ih (pending ++ s.filters)
      refine ⟨stages, waiting, hstages, fun h ↦ (List.cons_ne_nil _ _ h).elim, fun last ↦ ?_⟩
      rw [hcons, if_pos himplicit, hall]
    | false =>
      obtain ⟨stages, waiting, hstages, -, hall⟩ := ih []
      refine ⟨{ s with filters := pending ++ s.filters } :: stages, waiting,
        List.forall_mem_cons.2 ⟨himplicit, hstages⟩, fun h ↦ (List.cons_ne_nil _ _ h).elim,
        fun last ↦ ?_⟩
      rw [hcons, himplicit, if_neg Bool.false_ne_true, hall]
      rfl

/-- A last stage that filters, or stands alone, is the last one of the normal form, too. -/
theorem exists_normalize_concat {filters : List Filter} {front : List Stage}
    (h : filters ≠ [] ∨ front = []) :
    ∃ stages waiting, ∀ body,
      normalize ⟨front ++ [⟨filters, body⟩]⟩ = ⟨stages ++ [⟨waiting ++ filters, body⟩]⟩ := by
  obtain ⟨stages, waiting, hstages, halone, hall⟩ := exists_handOn_concat [] front
  refine ⟨stages, waiting, fun body ↦ ?_⟩
  suffices hnormal : (normalize ⟨front ++ [⟨filters, body⟩]⟩).stages =
      stages ++ [⟨waiting ++ filters, body⟩] from congrArg Pipeline.mk hnormal
  rw [stages_normalize, hall, withoutIdle_concat hstages]
  cases hidle : isIdle ⟨waiting ++ filters, body⟩ with
  | false => rw [if_neg Bool.false_ne_true, if_neg (by simp)]
  | true =>
    have hpassthrough := eq_passthrough_of_isIdle hidle
    rcases h with hfilters | rfl
    · have hnone : waiting ++ filters = [] := congrArg Stage.filters hpassthrough
      exact absurd (List.append_eq_nil_iff.1 hnone).2 hfilters
    · rw [(halone rfl).1, hpassthrough]
      rfl

/-! ## The two pipelines -/

/-- A last stage without columns that has a filter, or is the only one, can be told to print
field 0.  Then either the pipeline can as little be built as before, with the same error, or
whatever rows come and whenever the tables are told to finish, every request has the same outcome
and the same calls of the sink, however full the writer was, and whatever the sink does. -/
theorem trace_first_field [NumberReader] {front : List Stage} {filters : List Filter}
    (h : filters ≠ [] ∨ front = []) (engine : PatternEngine) (orders : Nat → GroupOrder)
    (out : Writer) :
    Outcome.Alike (fun built built' ↦ ∀ requests, built.1.trace requests = built'.1.trace requests)
      (build engine orders ⟨front ++ [⟨filters, .project []⟩]⟩ out)
      (build engine orders ⟨front ++ [⟨filters, .project [0]⟩]⟩ out) := by
  obtain ⟨stages, waiting, hnormal⟩ := exists_normalize_concat h
  rw [build, build, hnormal, hnormal]
  exact (shownBy_buildStages stages (waiting ++ filters) out 0).bind fun _ _ hshown requests ↦
    hshown.trace_eq requests

open Standard

/-- A sink that first takes one byte, then fails to write, and later to flush, and a row without
fields in between. -/
theorem trace_first_field_faults :
    let behaviour : SinkBehaviour :=
      ⟨fun call offered ↦ match call with
        | 0 => .ok 1
        | 1 => .error (.other "full")
        | _ => .ok offered, fun call ↦ if call = 0 then .error (.other "gone") else .ok ()⟩
    let rows : List Row := [.ofLine [97, 98, 32, 99], .ofLine [], .ofLine [100]]
    let requests : List Table.Request := rows.map .push ++ [.finish]
    let engine : PatternEngine := fun _ ↦ .ok fun _ ↦ true
    ∃ built built',
      build engine (fun _ ↦ .sorted) ⟨[⟨[], .project []⟩]⟩ (.new behaviour 2) = .ok built ∧
      build engine (fun _ ↦ .sorted) ⟨[⟨[], .project [0]⟩]⟩ (.new behaviour 2) = .ok built' ∧
      built.1.trace requests = built'.1.trace requests ∧
      (built'.1.trace requests).map Prod.fst =
        [.error (.io (.other "full")), .error (.io (.other "gone")), .ok (), .ok ()] := by
  intro behaviour rows requests engine
  have hnone : ([] : List Filter) ≠ [] ∨ ([] : List Stage) = [] := .inr rfl
  have hsame := trace_first_field hnone engine (fun _ ↦ .sorted) (.new behaviour 2)
  exact ⟨_, _, rfl, rfl, hsame requests, by decide +kernel⟩

end Pipeline

end Rollup
