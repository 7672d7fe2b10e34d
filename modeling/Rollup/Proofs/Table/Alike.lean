import Rollup.Proofs.Table.Orderly
import Rollup.Proofs.Table.Twins

/-!
# Chains that cannot be told apart

Two chains are alike if their stages of groups are twins and their writers have the same lines
waiting, whatever else is left in them (`Table.Alike`).  Whatever they are asked to do, they
answer alike, write the same bytes, and are alike afterwards (`Alike.serveAll`), unless the
first one runs out of numbers or handles, which takes 2³² rows.

The relation is kept by a row (`Alike.push`), and hence by all rows that a stage hands on
(`Alike.each`); these are the same for twins (`Alike.emitGroups`).  With that it is kept when
the chains finish (`Alike.finish`).
-/

namespace Rollup

open Outcome

open Grouping (place)

/-! ## Writers -/

/-- The same waits in both buffers, and the first sink has received `front` before all that the
second one has. -/
structure Writer.Alike (front : Bytes) (used fresh : Writer) : Prop where
  buffer_eq : used.buffer = fresh.buffer
  received_eq : used.sink.received = front ++ fresh.sink.received

namespace Writer.Alike

variable {front : Bytes} {used fresh : Writer}

theorem flush (h : used.Alike front fresh) (hused : used.sink.behaviour.NeverFails)
    (hfresh : fresh.sink.behaviour.NeverFails) :
    used.flush.outcome = fresh.flush.outcome ∧ used.flush.state.Alike front fresh.flush.state := by
  obtain ⟨hok, -, hreceived⟩ := flush_ok hused
  obtain ⟨hok', -, hreceived'⟩ := flush_ok hfresh
  refine ⟨hok.trans hok'.symm, ?_, ?_⟩
  · rw [(used.flush_received.2.2 hok).1, (fresh.flush_received.2.2 hok').1]
  · rw [hreceived, hreceived', written, written, h.received_eq, h.buffer_eq, List.append_assoc]

theorem writeLine (h : used.Alike front fresh) (hused : used.sink.behaviour.NeverFails)
    (hfresh : fresh.sink.behaviour.NeverFails) (hthreshold : used.threshold = fresh.threshold)
    (line : Bytes) :
    (used.writeLine line).outcome = (fresh.writeLine line).outcome ∧
      (used.writeLine line).state.Alike front (fresh.writeLine line).state := by
  have hadded : Alike front { used with buffer := (used.buffer.appendList line).push 0x0A }
      { fresh with buffer := (fresh.buffer.appendList line).push 0x0A } :=
    ⟨by rw [h.buffer_eq], h.received_eq⟩
  rw [Writer.writeLine, Writer.writeLine]
  dsimp only
  rw [hthreshold, h.buffer_eq] at hadded ⊢
  split
  · exact hadded.flush hused hfresh
  · exact ⟨rfl, hadded⟩

end Writer.Alike

/-- The columns of a twin are as good. -/
theorem GroupStage.Twin.orderly {stage twin : GroupStage} {columns columns' : Columns}
    (h : stage.Twin twin) (hstage : stage.Orderly columns) (htwin : twin.Orderly columns')
    (hsize : columns'.size = columns.size) : stage.Orderly columns' := by
  have hplaces : twin.bundle.slots.map place = stage.bundle.slots.map place := by
    rw [← List.forall₂_eq_eq_eq, List.forall₂_map_left_iff, List.forall₂_map_right_iff]
    exact h.slots.flip.imp fun _ _ hslot ↦ hslot.place_eq
  have haggregates := Table.aggregatesOf_congr hplaces
  have hready := htwin.ready
  rw [h.keys_eq, haggregates, hsize] at hready
  exact hstage.of_ready hready

namespace Table

/-- The chains are made alike, know the same, and have the same lines waiting. -/
inductive Alike (front : Bytes) : Table → Table → Prop
  | writer {out out' : Writer} (h : out.Alike front out') : Alike front (.writer out) (.writer out')
  | passthrough {out out' : Writer} (h : out.Alike front out') :
    Alike front (.passthrough out) (.passthrough out')
  | filtered {tests : List FieldTest} {dropped dropped' : Nat} {inner inner' : Table}
    (h : Alike front inner inner') :
    Alike front (.filtered tests dropped inner) (.filtered tests dropped' inner')
  | projection {fields : List Nat} {columns columns' : Columns} {next next' : Table}
    (h : Alike front next next') :
    Alike front (.projection fields columns next) (.projection fields columns' next')
  | grouped {stage twin : GroupStage} {columns columns' : Columns} {next next' : Table}
    (htwin : stage.Twin twin) (hsize : columns'.size = columns.size) (h : Alike front next next') :
    Alike front (.grouped stage columns next) (.grouped twin columns' next')

/-- The steps end alike, in chains that are alike. -/
def StepAlike (front : Bytes) (step step' : Step Error Table) : Prop :=
  step.outcome = step'.outcome ∧ Alike front step.state step'.state

theorem grew_each [NumberReader] (table : Table) (rows : List Row) :
    Grew table (Step.each push rows table).state :=
  Step.each_invariant (p := Grew table) (fun _ row h ↦ h.trans (grew_push _ row)) rows (.refl table)

theorem grew_serveAll [NumberReader] (table : Table) (rs : List Request) :
    Grew table (table.serveAll rs).1 := by
  induction rs generalizing table with
  | nil => exact .refl table
  | cons request rs ih =>
    have hserved : Grew table (table.serve request).state := by
      cases request with
      | push row => exact grew_push table row
      | finish => exact grew_finish table
    exact hserved.trans (ih _)

namespace Alike

variable {front : Bytes} {used fresh : Table} {threshold : Nat} {row : Row} {rows : List Row}

/-- What the first chain has written since. -/
theorem received (h : Alike front used fresh) :
    ∃ sink sink' : Sink, used.sink? = some sink ∧ fresh.sink? = some sink' ∧
      sink.received = front ++ sink'.received := by
  induction h with
  | writer h => exact ⟨_, _, rfl, rfl, h.received_eq⟩
  | passthrough h => exact ⟨_, _, rfl, rfl, h.received_eq⟩
  | filtered _ ih => exact ih
  | projection _ ih => exact ih
  | grouped _ _ _ ih => exact ih

variable [NumberReader]

theorem push (h : Alike front used fresh) (hused : used.Orderly threshold)
    (hfresh : fresh.Orderly threshold) (hrow : row.Readable)
    (hbounded : (used.push row).state.Bounded) :
    StepAlike front (used.push row) (fresh.push row) := by
  induction h generalizing row with
  | writer h =>
    obtain ⟨record, hrecord⟩ := hrow
    obtain ⟨houtcome, halike⟩ := h.writeLine hused.1 hfresh.1 (hused.2.trans hfresh.2.symm)
      (Writer.tabbed record)
    simp only [Table.push, hrecord]
    exact ⟨houtcome, .writer halike⟩
  | passthrough h =>
    obtain ⟨value, hvalue⟩ := hrow.exists_field 0
    obtain ⟨houtcome, halike⟩ := h.writeLine hused.1 hfresh.1 (hused.2.trans hfresh.2.symm) value
    simp only [Table.push, hvalue]
    exact ⟨houtcome, .passthrough halike⟩
  | filtered h ih =>
    rename_i tests _ _ _ _
    obtain ⟨accepted, haccepted⟩ := hrow.exists_allAccept tests
    simp only [Table.push, haccepted] at hbounded ⊢
    cases accepted with
    | true =>
      obtain ⟨houtcome, halike⟩ := ih hused hfresh hrow hbounded
      exact ⟨houtcome, .filtered halike⟩
    | false => exact ⟨rfl, .filtered h⟩
  | projection h ih =>
    obtain ⟨record, hrecord⟩ := hrow
    rw [push_projection hused.1 hrecord] at hbounded ⊢
    rw [push_projection hfresh.1 hrecord]
    obtain ⟨houtcome, halike⟩ := ih hused.2 hfresh.2 (Row.readable_ofFields _) hbounded
    exact ⟨houtcome, .projection halike⟩
  | grouped htwin hsize h ih =>
    rename_i stage twin _ _ _ _
    have hintact := hfresh.1.intact
    rw [htwin.keys_eq] at hintact
    rcases GroupStage.twin_after htwin hused.1.intact hintact row with
      ⟨_, -, -, hfull⟩ | ⟨houtcome, htwin'⟩
    · have hrows : stage.rows + 1 < 1 <<< 32 := hbounded _ List.mem_cons_self
      exact absurd hfull (Nat.not_le.2 hrows)
    · exact ⟨houtcome, .grouped htwin' hsize h⟩

theorem each (h : Alike front used fresh) (hused : used.Orderly threshold)
    (hfresh : fresh.Orderly threshold) (hrows : ∀ row ∈ rows, row.Readable)
    (hbounded : (Step.each Table.push rows used).state.Bounded) :
    StepAlike front (Step.each Table.push rows used) (Step.each Table.push rows fresh) := by
  induction rows generalizing used fresh with
  | nil => exact ⟨rfl, h⟩
  | cons row rows ih =>
    rw [List.forall_mem_cons] at hrows
    rw [Step.each_cons] at hbounded ⊢
    rw [Step.each_cons]
    have hpush := h.push hused hfresh hrows.1
    cases houtcome : (used.push row).outcome with
    | error e =>
      rw [Step.andThen_of_error houtcome] at hbounded ⊢
      rw [Step.andThen_of_error ((hpush hbounded).1.symm.trans houtcome)]
      exact hpush hbounded
    | ok u =>
      rw [Step.andThen_of_ok houtcome] at hbounded ⊢
      obtain ⟨hsame, halike⟩ := hpush ((grew_each _ rows).bounded hbounded)
      rw [Step.andThen_of_ok (hsame.symm.trans houtcome)]
      exact ih halike (remains_push hused hrows.1).orderly (remains_push hfresh hrows.1).orderly
        hrows.2 hbounded

/-- Twins hand the same rows to chains that are alike. -/
theorem emitGroups {stage twin : GroupStage} {columns columns' : Columns}
    (htwin : stage.Twin twin) (hsize : columns'.size = columns.size) (h : Alike front used fresh)
    (hstage : stage.Orderly columns) (htwin' : twin.Orderly columns')
    (hused : used.Orderly threshold) (hfresh : fresh.Orderly threshold)
    (hbounded : (Table.emitGroups stage columns used).state.2.Bounded) :
    (Table.emitGroups stage columns used).outcome = (Table.emitGroups twin columns' fresh).outcome ∧
      Alike front (Table.emitGroups stage columns used).state.2
        (Table.emitGroups twin columns' fresh).state.2 := by
  rw [← emitGroups_twin htwin]
  by_cases hdata : stage.grouping.keys = [] ∧ stage.grouping.size = 0
  · rw [emitGroups_of_noData hdata, emitGroups_of_noData hdata]
    exact ⟨rfl, h⟩
  · obtain ⟨rows, hrows, hemit⟩ := exists_handed hstage hdata
    obtain ⟨_, -, -, heq⟩ := hemit columns used rfl hstage
    obtain ⟨_, -, -, heq'⟩ := hemit columns' fresh hsize (htwin.orderly hstage htwin' hsize)
    rw [heq] at hbounded ⊢
    rw [heq']
    exact h.each hused hfresh hrows hbounded

/-- Chains that are alike finish alike. -/
theorem finish (h : Alike front used fresh) (hused : used.Orderly threshold)
    (hfresh : fresh.Orderly threshold) (hbounded : used.finish.1.state.Bounded) :
    StepAlike front used.finish.1 fresh.finish.1 := by
  induction used using finish.induct generalizing fresh with
  | case1 out =>
    cases h with
    | writer h =>
      obtain ⟨houtcome, halike⟩ := h.flush hused.1 hfresh.1
      rw [Table.finish, Table.finish]
      exact ⟨houtcome, .writer halike⟩
  | case2 out =>
    cases h with
    | passthrough h =>
      obtain ⟨houtcome, halike⟩ := h.flush hused.1 hfresh.1
      rw [Table.finish, Table.finish]
      exact ⟨houtcome, .passthrough halike⟩
  | case3 arrivals => exact hused.elim
  | case4 tests dropped inner ih =>
    cases h with
    | filtered h =>
      rw [Table.finish] at hbounded ⊢
      rw [Table.finish]
      obtain ⟨houtcome, halike⟩ := ih h hused hfresh hbounded
      exact ⟨houtcome, .filtered halike⟩
  | case5 fields columns next ih =>
    cases h with
    | projection h =>
      rw [Table.finish] at hbounded ⊢
      rw [Table.finish]
      obtain ⟨houtcome, halike⟩ := ih h hused.2 hfresh.2 hbounded
      exact ⟨houtcome, .projection halike⟩
  | case6 stage columns next emitting e =>
    rename_i hemitting
    cases h with
    | grouped htwin hsize h =>
      have hemit := h.emitGroups htwin hsize hused.1 hfresh.1 hused.2 hfresh.2
      obtain ⟨-, hsize₁, -⟩ := remains_emitGroups hused.1 hused.2
      obtain ⟨-, hsize₂, -⟩ := remains_emitGroups hfresh.1 hfresh.2
      rw [finish_grouped, hemitting] at hbounded ⊢
      obtain ⟨houtcome, halike⟩ := hemit fun n hn ↦ hbounded n (List.mem_cons_of_mem _ hn)
      rw [finish_grouped, ← houtcome, hemitting]
      exact ⟨rfl, .grouped htwin (hsize₂.trans (hsize.trans hsize₁.symm)) halike⟩
  | case7 stage columns next emitting u =>
    rename_i hemitting _ ih
    cases h with
    | grouped htwin hsize h =>
      have hemit := h.emitGroups htwin hsize hused.1 hfresh.1 hused.2 hfresh.2
      obtain ⟨-, hsize₁, hnext⟩ := remains_emitGroups hused.1 hused.2
      obtain ⟨-, hsize₂, hnext'⟩ := remains_emitGroups hfresh.1 hfresh.2
      rw [finish_grouped, hemitting] at hbounded ⊢
      have hbehind : (Table.emitGroups stage columns next).state.2.finish.1.state.Bounded :=
        fun n hn ↦ hbounded n (List.mem_cons_of_mem _ hn)
      obtain ⟨houtcome, halike⟩ := hemit ((grew_finish _).bounded hbehind)
      obtain ⟨hclosing, hclosed⟩ := ih halike hnext.orderly hnext'.orderly hbehind
      rw [finish_grouped, ← houtcome, hemitting]
      exact ⟨hclosing, .grouped (GroupStage.twin_clear htwin)
        (hsize₂.trans (hsize.trans hsize₁.symm)) hclosed⟩

theorem serve (h : Alike front used fresh) (hused : used.Orderly threshold)
    (hfresh : fresh.Orderly threshold) {request : Request} (hrequest : request.Readable)
    (hbounded : (used.serve request).state.Bounded) :
    StepAlike front (used.serve request) (fresh.serve request) := by
  cases request with
  | push row => exact h.push hused hfresh hrequest hbounded
  | finish => exact h.finish hused hfresh hbounded

/-- Chains that are alike answer alike, and are alike afterwards. -/
theorem serveAll (h : Alike front used fresh) (hused : used.Orderly threshold)
    (hfresh : fresh.Orderly threshold) {rs : List Request} (hrs : ∀ request ∈ rs, request.Readable)
    (hbounded : (used.serveAll rs).1.Bounded) :
    (used.serveAll rs).2 = (fresh.serveAll rs).2 ∧
      Alike front (used.serveAll rs).1 (fresh.serveAll rs).1 := by
  induction rs generalizing used fresh with
  | nil => exact ⟨rfl, h⟩
  | cons request rs ih =>
    rw [List.forall_mem_cons] at hrs
    have hgrown : Grew (used.serve request).state (used.serveAll (request :: rs)).1 :=
      grew_serveAll _ rs
    obtain ⟨houtcome, halike⟩ := h.serve hused hfresh hrs.1 (hgrown.bounded hbounded)
    obtain ⟨houtcomes, hlast⟩ := ih halike (remains_serve hused hrs.1).orderly
      (remains_serve hfresh hrs.1).orderly hrs.2 hbounded
    exact ⟨congrArg₂ List.cons houtcome houtcomes, hlast⟩

end Alike

end Table

end Rollup
