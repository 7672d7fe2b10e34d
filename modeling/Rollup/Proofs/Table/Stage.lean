import Rollup.Proofs.Table.Rendering

/-!
# What a stage of groups does from its first row to its last

`GroupStage.Holds stage keys aggregates rows` says that the groups of a stage
know the rows so far.  It is true of a stage without groups, a row that is taken
in keeps it (`after_holds`), and so it is true after any run that succeeds
(`run_holds`).  On finishing, a stage then hands on one row for every tuple
(`finish_holds`).
-/

namespace Rollup

open Outcome Aggregator

/-- The groups of the stage know these rows, and all of them belong to a group. -/
structure GroupStage.Holds [NumberReader] (stage : GroupStage) (keys : List Key)
    (aggregates : List Aggregate) (rows : List Row) : Prop where
  keys_eq : stage.grouping.keys = keys
  aggregates_eq : Grouping.aggregatesOf stage.bundle.slots = aggregates
  coded : ∀ row ∈ rows, ∃ k, Grouping.keyOf keys row = .ok k
  tracks : stage.grouping.Tracks stage.bundle.slots (Grouping.coded keys rows)

/-- The stage after a row. -/
def GroupStage.after [NumberReader] (stage : GroupStage) (row : Row) : GroupStage :=
  let step := stage.grouping.push stage.bundle row
  { stage with grouping := step.state.1, bundle := step.state.2, rows := stage.rows + 1 }

/-- The slots have their places, and what their groups share is in order. -/
structure Bundle.Sound (bundle : Bundle) : Prop where
  placed : WellPlaced bundle.slots
  knows : ∀ slot ∈ bundle.slots, Grouping.Knows slot ∅ fun _ ↦ .nothing

/-- The slots have their places, and have not been used. -/
structure Bundle.Fresh (bundle : Bundle) : Prop where
  placed : WellPlaced bundle.slots
  new : ∀ slot ∈ bundle.slots, slot.aggregator = .new slot.aggregator.aggregate

theorem Bundle.Fresh.sound {bundle : Bundle} (h : bundle.Fresh) : bundle.Sound where
  placed := h.placed
  knows slot hslot := by
    obtain ⟨aggregator, offset, size⟩ := slot
    have hnew := h.new _ hslot
    dsimp only at hnew
    rw [hnew]
    exact Grouping.knows_new ..

/-- The only slot of a bundle has the whole buffer. -/
theorem Bundle.fresh_single (aggregate : Aggregate) : (single aggregate).Fresh where
  placed := by
    refine ⟨List.forall_mem_singleton.2 ?_, List.pairwise_singleton ..⟩
    cases aggregate <;> exact Nat.succ_pos _
  new := List.forall_mem_singleton.2 rfl

namespace Grouping

variable {keys : List Key} {rows : List Row}

theorem tracks_new [NumberReader] {bundle : Bundle} (h : bundle.Sound) (keys : List Key) :
    Tracks (new keys) bundle.slots (coded keys []) where
  placed := h.placed
  mem_iff k := by simp [new, coded]
  tracks slot hslot := ⟨_, h.knows slot hslot, fun k hk ↦ by simp [new] at hk⟩

theorem grown_coded {row : Row} {k : Bytes} (h : keyOf keys row = .ok k) (rows : List Row) :
    Grown (coded keys rows) (coded keys (rows ++ [row])) k row :=
  ⟨coded_snoc_self h rows, fun _ hne ↦ coded_snoc_of_ne h hne rows⟩

/-- Rows that belong to groups have tuples with codes. -/
theorem tuples_of_coded (h : ∀ row ∈ rows, ∃ k, keyOf keys row = .ok k) :
    ∃ tuples, rows.mapM (tuple keys) = .ok tuples ∧ ∀ t ∈ tuples, ∃ k, code t = .ok k := by
  induction rows with
  | nil => exact ⟨[], rfl, fun _ ht ↦ by cases ht⟩
  | cons row rows ih =>
    rw [List.forall_mem_cons] at h
    obtain ⟨k, hk⟩ := h.1
    obtain ⟨t, ht, hcode⟩ := keyOf_eq_ok.1 hk
    obtain ⟨tuples, htuples, hcodes⟩ := ih h.2
    exact ⟨t :: tuples, mapM_cons_eq_ok.2 ⟨t, tuples, ht, htuples, rfl⟩,
      List.forall_mem_cons.2 ⟨⟨k, hcode⟩, hcodes⟩⟩

end Grouping

namespace Table

open Grouping (Line Fits Ready tuple code keyOf members aggregatesOf place)

variable {stage : GroupStage} {keys : List Key} {aggregates : List Aggregate} {rows : List Row}
  {row : Row} {columns : Columns} {next : Table} {width : Nat}

/-! ## Rows -/

theorem holds_new [NumberReader] {bundle : Bundle} (h : bundle.Sound) (keys : List Key)
    (count : Nat) (order : GroupOrder) :
    GroupStage.Holds ⟨.new keys, bundle, count, order⟩ keys (aggregatesOf bundle.slots) [] where
  keys_eq := rfl
  aggregates_eq := rfl
  coded := List.forall_mem_nil _
  tracks := Grouping.tracks_new h keys

theorem aggregatesOf_congr {slots slots' : List Slot} (h : slots'.map place = slots.map place) :
    aggregatesOf slots' = aggregatesOf slots := by
  have hfst (slots : List Slot) : aggregatesOf slots = (slots.map place).map Prod.fst := by
    rw [List.map_map]
    rfl
  rw [hfst, hfst, h]

theorem push_grouped [NumberReader] (stage : GroupStage) (columns : Columns) (next : Table)
    (row : Row) :
    push (.grouped stage columns next) row =
      ⟨.grouped (stage.after row) columns next, (stage.grouping.push stage.bundle row).outcome⟩ :=
  rfl

/-- A row that is taken in is known afterwards. -/
theorem after_holds [NumberReader] (h : stage.Holds keys aggregates rows)
    (hok : (stage.grouping.push stage.bundle row).outcome = .ok ()) :
    (stage.after row).Holds keys aggregates (rows ++ [row]) := by
  obtain ⟨rfl, rfl, hcoded, htracks⟩ := h
  obtain ⟨hkeys, hplaces, ⟨k, hk⟩, htracks'⟩ :=
    Grouping.push_tracks htracks hok fun k hk ↦ Grouping.grown_coded hk rows
  refine ⟨hkeys, aggregatesOf_congr hplaces, ?_, htracks'⟩
  rw [List.forall_mem_append, List.forall_mem_singleton]
  exact ⟨hcoded, k, hk⟩

/-- After a run that succeeds all its rows are known. -/
theorem run_holds [NumberReader] (h : stage.Holds keys aggregates [])
    (hok : (Step.each push rows (.grouped stage columns next)).outcome = .ok ()) :
    ∃ stage', (Step.each push rows (.grouped stage columns next)).state =
        .grouped stage' columns next ∧ stage'.Holds keys aggregates rows := by
  refine Step.each_history (p := fun table past ↦ ∃ stage', table = .grouped stage' columns next ∧
    stage'.Holds keys aggregates past) ?_ ⟨stage, rfl, h⟩ hok
  rintro _ past row ⟨stage', rfl, hholds⟩ hpush
  exact ⟨stage'.after row, rfl, after_holds hholds hpush⟩

/-! ## Finishing -/

theorem ready_blank (keys : List Key) (aggregates : List Aggregate) (width : Nat) :
    Ready keys aggregates width (.blank width) :=
  ⟨by simp [Columns.blank], Columns.blankOutside_blank width _⟩

variable [NumberReader]

theorem finish_grouped (stage : GroupStage) (columns : Columns) (next : Table) :
    (finish (.grouped stage columns next)).1 =
      match (emitGroups stage columns next).outcome with
      | .error e => .failed (.grouped stage (emitGroups stage columns next).state.1
          (emitGroups stage columns next).state.2) e
      | .ok _ => ((emitGroups stage columns next).state.2.finish.1).map
          (.grouped { stage with grouping := stage.grouping.clear }
            (emitGroups stage columns next).state.1) := by
  rw [finish]
  cases (emitGroups stage columns next).outcome with
  | error e => rfl
  | ok u => rfl

theorem finish_of_emit {columns' : Columns} {lines : List (List Bytes)}
    (h : emitGroups stage columns next = (feed lines next).map fun next ↦ (columns', next)) :
    ∃ stage', (finish (.grouped stage columns next)).1 =
      (handOn lines next).map (.grouped stage' columns') := by
  rw [finish_grouped, h, handOn]
  cases hfeed : (feed lines next).outcome with
  | error e =>
    rw [Step.andThen_of_error hfeed]
    simp only [Step.map_outcome, Step.map_state, hfeed]
    refine ⟨stage, ?_⟩
    rw [Step.map, hfeed]
    rfl
  | ok u =>
    rw [Step.andThen_of_ok hfeed]
    simp only [Step.map_outcome, hfeed]
    exact ⟨_, rfl⟩

/-- A stage that knows some rows hands on a row for each of their tuples, whatever
table takes them, and finishes that table. -/
theorem finish_holds (h : stage.Holds keys aggregates rows) (hfits : Fits keys aggregates width) :
    ∃ tuples ts lines, rows.mapM (tuple keys) = .ok tuples ∧
      stage.grouping.size = tuples.dedup.length ∧ ts.Perm tuples.dedup ∧
      List.Forall₂ (Line keys aggregates width rows) ts lines ∧
      ∀ columns next, Ready keys aggregates width columns →
        if keys = [] ∧ rows = [] then
          (finish (.grouped stage columns next)).1 = .failed (.grouped stage columns next) .noData
        else ∃ stage' columns', (finish (.grouped stage columns next)).1 =
          (handOn lines next).map (.grouped stage' columns') := by
  obtain ⟨rfl, rfl, hcoded, htracks⟩ := h
  obtain ⟨tuples, htuples, hcodes⟩ := Grouping.tuples_of_coded hcoded
  obtain ⟨ts, hperm, hlength, hgroups⟩ :=
    Grouping.ordered_tuples htracks htuples hcodes stage.order
  obtain ⟨lines, hlines, hemit⟩ := emit_ok htracks hfits hgroups
  have hsize : stage.grouping.size = tuples.dedup.length := by rw [← hlength, hperm.length_eq]
  refine ⟨tuples, ts, lines, htuples, hsize, hperm, hlines, fun columns next hready ↦ ?_⟩
  split
  · rename_i hnone
    obtain ⟨hkeys, rfl⟩ := hnone
    cases htuples
    have hempty : emitGroups stage columns next = .failed (columns, next) .noData := by
      rw [emitGroups, hkeys, hsize]
      rfl
    rw [finish_grouped, hempty]
    rfl
  · rename_i hsome
    obtain ⟨columns', hall⟩ := hemit columns next hready
    have hemitted : emitGroups stage columns next =
        Step.each (emitGroup stage) (stage.grouping.ordered stage.order) (columns, next) := by
      refine if_neg fun hnone ↦ hsome ?_
      rw [Bool.and_eq_true, List.isEmpty_iff, decide_eq_true_eq, hsize] at hnone
      obtain ⟨hkeys, hzero⟩ := hnone
      have htuples' : tuples = [] := (List.dedup_eq_nil _).1 (List.eq_nil_of_length_eq_zero hzero)
      rw [htuples'] at htuples
      exact ⟨hkeys, List.eq_nil_of_length_eq_zero (length_of_mapM htuples).symm⟩
    obtain ⟨stage', hfinish⟩ := finish_of_emit (hemitted.trans hall)
    exact ⟨stage', columns', hfinish⟩

end Table

end Rollup
