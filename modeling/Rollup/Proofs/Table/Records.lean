import Rollup.Proofs.Table.Aggregating
import Rollup.Proofs.Table.Chain

/-!
# Groups know rows by the fields that they look at

What a stage of groups does with a row depends on the fields of its keys and aggregates
only (`fieldsOf`).  So rows that agree on these do the same to it, whatever the lines are
that they were cut from, and so do lists of such rows (`drain_grouped`).

What a stage hands on therefore depends on the records that it was given only, and it is
what the same stage hands to a recorder (`handsTo_grouped`).
-/

namespace Rollup

open Outcome

/-! ## Rows that agree -/

/-- The fields are the same, or cannot be read for the same reason. -/
def Row.AgreeOn (fields : List Nat) (row row' : Row) : Prop :=
  ∀ i ∈ fields, row.field i = row'.field i

theorem Row.AgreeOn.mono {fields fields' : List Nat} {row row' : Row}
    (h : Row.AgreeOn fields row row') (hsub : fields' ⊆ fields) : Row.AgreeOn fields' row row' :=
  fun i hi ↦ h i (hsub hi)

/-- The fields that an aggregate looks at. -/
def Aggregate.fields : Aggregate → List Nat
  | .nothing | .count _ => []
  | .sum field _ | .extremum _ field _ | .distinct field _ => [field]
  | .bestRow _ field carried => field :: carried.map CarriedField.field

/-- The fields that keys and aggregates look at. -/
def Grouping.fieldsOf (keys : List Key) (aggregates : List Aggregate) : List Nat :=
  keys.map Key.field ++ aggregates.flatMap Aggregate.fields

section Congruence

variable {row row' : Row}

namespace Aggregator

theorem number_congr [NumberReader] {field : Nat} (h : row.field field = row'.field field) :
    number row field = number row' field := by
  rw [number, number, h]

theorem carriedBlob_congr {carried : List CarriedField}
    (h : Row.AgreeOn (carried.map CarriedField.field) row row') :
    carriedBlob carried row = carriedBlob carried row' := by
  rw [carriedBlob, carriedBlob, mapM_congr fun c hc ↦ h c.field (List.mem_map_of_mem hc)]

variable {a : Aggregator}

theorem start_congr [NumberReader] (h : Row.AgreeOn a.aggregate.fields row row') :
    a.start row = a.start row' := by
  obtain ⟨aggregate, arena, seen, nextGroup⟩ := a
  cases aggregate with
  | nothing | count => rfl
  | sum field | extremum _ field =>
    simp only [start, number_congr (h field List.mem_cons_self)]
  | bestRow goal field carried =>
    simp only [start, number_congr (h field List.mem_cons_self),
      carriedBlob_congr (h.mono (List.subset_cons_self _ _))]
  | distinct field =>
    simp only [start, h field List.mem_cons_self]

theorem absorb_congr [NumberReader] (h : Row.AgreeOn a.aggregate.fields row row')
    (s : Accumulator) : a.absorb row s = a.absorb row' s := by
  obtain ⟨aggregate, arena, seen, nextGroup⟩ := a
  cases aggregate with
  | nothing | count => cases s <;> rfl
  | sum field | extremum _ field =>
    cases s <;> simp only [absorb, number_congr (h field List.mem_cons_self)]
  | bestRow goal field carried =>
    cases s <;> simp only [absorb, number_congr (h field List.mem_cons_self),
      carriedBlob_congr (h.mono (List.subset_cons_self _ _))]
  | distinct field =>
    cases s <;> simp only [absorb, h field List.mem_cons_self]

end Aggregator

namespace Bundle

theorem through_congr {share : Slot → Row → Buffer → Step Error (Slot × Buffer)}
    {slots : List Slot}
    (h : ∀ slot ∈ slots, ∀ buffer, share slot row buffer = share slot row' buffer)
    (buffer : Buffer) : through share row slots buffer = through share row' slots buffer := by
  induction slots generalizing buffer with
  | nil => rfl
  | cons slot slots ih =>
    rw [List.forall_mem_cons] at h
    simp only [through, h.1, ih h.2]

variable {b : Bundle}

theorem start_congr [NumberReader]
    (h : ∀ slot ∈ b.slots, Row.AgreeOn slot.aggregator.aggregate.fields row row') :
    b.start row = b.start row' := by
  rw [start, start, through_congr fun slot hslot buffer ↦ ?_]
  rw [startSlot, startSlot, Aggregator.start_congr (h slot hslot)]

theorem absorb_congr [NumberReader]
    (h : ∀ slot ∈ b.slots, Row.AgreeOn slot.aggregator.aggregate.fields row row')
    (buffer : Buffer) : b.absorb row buffer = b.absorb row' buffer := by
  rw [absorb, absorb, through_congr fun slot hslot buffer ↦ ?_]
  simp only [absorbSlot, Aggregator.absorb_congr (h slot hslot)]

end Bundle

namespace Grouping

theorem keyOf_congr_row {keys : List Key} (h : Row.AgreeOn (keys.map Key.field) row row') :
    keyOf keys row = keyOf keys row' := by
  have hwrite : Key.write [] keys row = Key.write [] keys row' := by
    refine Step.each_congr (fun field hfield written ↦ ?_) _
    rw [Key.append, Key.append, h field hfield]
  cases keys with
  | nil => rfl
  | cons key keys =>
    cases keys with
    | nil => exact h key.field (List.mem_singleton_self _)
    | cons => simp only [keyOf, Key.serialize, hwrite]

theorem push_congr [NumberReader] {g : Grouping} {bundle : Bundle}
    (h : Row.AgreeOn (fieldsOf g.keys (aggregatesOf bundle.slots)) row row') :
    g.push bundle row = g.push bundle row' := by
  have hslots (slot : Slot) (hslot : slot ∈ bundle.slots) :
      Row.AgreeOn slot.aggregator.aggregate.fields row row' := by
    refine h.mono fun i hi ↦ List.mem_append_right _ (List.mem_flatMap.2 ⟨_, ?_, hi⟩)
    exact List.mem_map_of_mem hslot
  simp only [push, keyOf_congr_row (h.mono (List.subset_append_left _ _)),
    Bundle.start_congr hslots, Bundle.absorb_congr hslots]

end Grouping

end Congruence

/-- The lines are those of the tuples that rows have, in some order. -/
def Grouping.Renders [NumberReader] (keys : List Key) (aggregates : List Aggregate) (width : Nat)
    (rows : List Row) (lines : List Record) : Prop :=
  ∃ tuples ts, rows.mapM (tuple keys) = .ok tuples ∧ ts.Perm tuples.dedup ∧
    List.Forall₂ (Line keys aggregates width rows) ts lines

/-- Takes a row into its group. -/
def GroupStage.take [NumberReader] (stage : GroupStage) (row : Row) : Step Error GroupStage :=
  ⟨stage.after row, (stage.grouping.push stage.bundle row).outcome⟩

/-- Rows that agree on the fields that a stage looks at do the same to it. -/
theorem GroupStage.each_take_congr [NumberReader] {stage : GroupStage} {keys : List Key}
    {aggregates : List Aggregate} {past rows rows' : List Row}
    (h : List.Forall₂ (Row.AgreeOn (Grouping.fieldsOf keys aggregates)) rows rows')
    (hholds : stage.Holds keys aggregates past) :
    Step.each take rows stage = Step.each take rows' stage := by
  induction h generalizing stage past with
  | nil => rfl
  | @cons row row' rows rows' hrow _ ih =>
    have hpush : stage.grouping.push stage.bundle row = stage.grouping.push stage.bundle row' := by
      rw [← hholds.keys_eq, ← hholds.aggregates_eq] at hrow
      exact Grouping.push_congr hrow
    have htake : stage.take row = stage.take row' := by
      rw [take, take, after, after, hpush]
    rw [Step.each_cons, Step.each_cons, ← htake]
    cases hok : (stage.take row).outcome with
    | ok u =>
      rw [Step.andThen_of_ok hok, Step.andThen_of_ok hok]
      exact ih (Table.after_holds hholds hok)
    | error e => rw [Step.andThen_of_error hok, Step.andThen_of_error hok]

namespace Table

open Grouping (Line Fits aggregatesOf)

variable {stage : GroupStage} {columns : Columns} {next table : Table} {rows : List Row}
  {records lines : List Record} {meaning : List Record → Except Error (Option Bytes)}

theorem each_push_grouped [NumberReader] (rows : List Row) (stage : GroupStage) (columns : Columns)
    (next : Table) :
    Step.each push rows (.grouped stage columns next) =
      (Step.each GroupStage.take rows stage).map fun stage ↦ .grouped stage columns next :=
  Step.each_map (f := fun stage : GroupStage ↦ grouped stage columns next)
    (fun stage row ↦ push_grouped stage columns next row) rows stage

/-- A new table of groups does the same with rows that agree on the fields that it looks at. -/
theorem drain_grouped [NumberReader] {bundle : Bundle} {keys : List Key} {rows' : List Row}
    (hsound : bundle.Sound)
    (h : List.Forall₂ (Row.AgreeOn (Grouping.fieldsOf keys (aggregatesOf bundle.slots))) rows rows')
    (order : GroupOrder) (width : Nat) (next : Table) :
    drain rows (grouping keys bundle order width next) =
      drain rows' (grouping keys bundle order width next) := by
  rw [drain, drain, grouping, each_push_grouped, each_push_grouped,
    GroupStage.each_take_congr h (holds_new hsound keys 0 order)]

/-- Rows are as good as the rows made of their fields. -/
theorem agreeOn_ofFields (hrows : rows.mapM Row.fields = .ok records) (fields : List Nat) :
    List.Forall₂ (Row.AgreeOn fields) rows (records.map Row.ofFields) := by
  induction rows generalizing records with
  | nil =>
    cases hrows
    exact .nil
  | cons row rows ih =>
    obtain ⟨record, records, hrecord, hrecords, rfl⟩ := mapM_cons_eq_ok.1 hrows
    refine .cons (fun i _ ↦ ?_) (ih hrecords)
    rw [Row.field_of_fields hrecord, Row.field_of_fields (Row.fields_ofFields record)]

variable [NumberReader]

/-- Tables do not tell rows with the same fields apart. -/
theorem push_congr {row row' : Row} {record : Record} (h : row.fields = .ok record)
    (h' : row'.fields = .ok record) (table : Table) : table.push row = table.push row' := by
  have hfield (i : Nat) : row.field i = row'.field i := by
    rw [Row.field_of_fields h, Row.field_of_fields h']
  induction table with
  | writer out => rw [push, push, h, h']
  | passthrough out => rw [push, push, hfield]
  | recorder arrivals => rw [push, push, h, h']
  | filtered tests dropped inner ih =>
    rw [push, push, FieldTest.allAccept_eq h, FieldTest.allAccept_eq h', ih]
  | projection fields columns next => simp only [push, hfield]
  | grouped stage columns next =>
    rw [push, push, Grouping.push_congr fun i _ ↦ hfield i]

theorem drain_congr {rows' : List Row} (h : rows.mapM Row.fields = .ok records)
    (h' : rows'.mapM Row.fields = .ok records) (table : Table) :
    table.drain rows = table.drain rows' := by
  have hpush : Step.each push rows table = Step.each push rows' table := by
    rw [mapM_eq_ok_iff] at h h'
    induction h generalizing rows' table with
    | nil =>
      cases h'
      rfl
    | @cons row record rows records hrow _ ih =>
      cases h' with
      | @cons row' _ rows' _ hrow' hrows' =>
        rw [Step.each_cons, Step.each_cons, push_congr hrow hrow' table]
        exact congrArg _ (funext fun table ↦ ih hrows' table)
  rw [drain, drain, hpush]

/-! ## What a recorder is given -/

theorem feed_recorder (lines : List Record) (arrivals : Array Arrival) :
    feed lines (.recorder arrivals) =
      .done (.recorder (arrivals ++ (lines.map Arrival.row).toArray)) := by
  induction lines generalizing arrivals with
  | nil =>
    rw [feed, List.map_nil, List.map_nil, Array.append_empty]
    rfl
  | cons line lines ih =>
    rw [feed, List.map_cons, Step.each_cons, push, Row.fields_ofFields]
    dsimp only
    rw [Step.done_andThen]
    refine (ih _).trans ?_
    simp

theorem arrivals_handOn (lines : List Record) :
    (handOn lines (.recorder #[])).outcome = .ok () ∧
      (handOn lines (.recorder #[])).state.arrivals.toList.filterMap Arrival.record? = lines := by
  rw [handOn, feed_recorder, Step.done_andThen, finish]
  refine ⟨rfl, ?_⟩
  simp only [Step.done_state, arrivals]
  simp [Arrival.record?, List.filterMap_map, Function.comp_def]

/-- A stage that refuses one of the rows fails, in front of whatever table. -/
theorem drain_grouping_of_refused {bundle : Bundle} {keys : List Key} {order : GroupOrder}
    {e : Error}
    (hrun : (Step.each GroupStage.take rows ⟨.new keys, bundle, 0, order⟩).outcome = .error e)
    (width : Nat) (next : Table) :
    (drain rows (grouping keys bundle order width next)).outcome = .error e := by
  rw [drain, grouping, each_push_grouped, Step.map_andThen_of_error hrun]
  exact hrun

/-- A stage that takes in all rows hands on the rows that it renders, in front of whatever
table, unless there are neither keys nor rows. -/
theorem drain_grouping_of_taken {bundle : Bundle} {keys : List Key} {width : Nat}
    {order : GroupOrder} (hsound : bundle.Sound)
    (hfits : Fits keys (aggregatesOf bundle.slots) width)
    (hrun : (Step.each GroupStage.take rows ⟨.new keys, bundle, 0, order⟩).outcome = .ok ()) :
    ∃ lines, Grouping.Renders keys (aggregatesOf bundle.slots) width rows lines ∧
      ∀ next, if keys = [] ∧ rows = [] then
          (drain rows (grouping keys bundle order width next)).outcome = .error .noData
        else ∃ stage columns, drain rows (grouping keys bundle order width next) =
          (handOn lines next).map (.grouped stage columns) := by
  have hholds : (Step.each GroupStage.take rows ⟨.new keys, bundle, 0, order⟩).state.Holds keys
      (aggregatesOf bundle.slots) rows :=
    Step.each_history (p := fun stage rows ↦ GroupStage.Holds stage keys _ rows)
      (fun _ _ _ hpast hok ↦ after_holds hpast hok) (holds_new hsound keys 0 order) hrun
  obtain ⟨tuples, ts, lines, htuples, -, hperm, hlines, hfinish⟩ := finish_holds hholds hfits
  refine ⟨lines, ⟨tuples, ts, htuples, hperm, hlines⟩, fun next ↦ ?_⟩
  have hdone := hfinish (.blank width) next (ready_blank ..)
  rw [drain, grouping, each_push_grouped, Step.map_andThen_of_ok hrun]
  split
  · rename_i hnone
    rw [if_pos hnone] at hdone
    rw [hdone]
    rfl
  · rename_i hsome
    rwa [if_neg hsome] at hdone

/-- Draining a stage fails, in front of whatever table, or else there are rows that
it hands on in front of whatever table. -/
theorem drain_grouping {bundle : Bundle} {keys : List Key} {width : Nat} (hsound : bundle.Sound)
    (hfits : Fits keys (aggregatesOf bundle.slots) width) (order : GroupOrder)
    (rows : List Row) :
    (∃ e, ∀ next, (drain rows (grouping keys bundle order width next)).outcome = .error e) ∨
      ∃ lines, ∀ next, ∃ stage columns, drain rows (grouping keys bundle order width next) =
        (handOn lines next).map (.grouped stage columns) := by
  cases hrun : (Step.each GroupStage.take rows ⟨.new keys, bundle, 0, order⟩).outcome with
  | error e => exact .inl ⟨e, drain_grouping_of_refused hrun width⟩
  | ok u =>
    obtain ⟨lines, -, hdrain⟩ := drain_grouping_of_taken hsound hfits hrun
    by_cases hnone : keys = [] ∧ rows = []
    · simp only [if_pos hnone] at hdrain
      exact .inl ⟨.noData, hdrain⟩
    · simp only [if_neg hnone] at hdrain
      exact .inr ⟨lines, hdrain⟩

/-- In front of whatever table, a stage of groups makes of records what it makes of them
in front of a recorder. -/
theorem drain_buildBody {components : List Component} {order : GroupOrder}
    {notices : List Notice}
    (hbuild : Stage.buildBody (.aggregate components) order next = .ok (table, notices))
    (hrows : rows.mapM Row.fields = .ok records) :
    (∃ e, Stage.grouped components order records = .error e ∧
      (drain rows table).outcome = .error e) ∨
    ∃ lines stage columns, Stage.grouped components order records = .ok lines ∧
      drain rows table = (handOn lines next).map (.grouped stage columns) := by
  obtain ⟨a, bundle, ha, hfresh, hsame, rfl, hall⟩ := Stage.buildBody_eq_ok hbuild
  have hfits := hsame.fits (Assignment.fits_of_from ha)
  rw [drain_grouped hfresh.sound (agreeOn_ofFields hrows _), Stage.grouped, hall, ok_bind]
  dsimp only
  rcases drain_grouping hfresh.sound hfits order (records.map Row.ofFields) with
    ⟨e, hfails⟩ | ⟨lines, hlines⟩
  · refine .inl ⟨e, ?_, hfails next⟩
    rw [hfails]
  · obtain ⟨stage, columns, hdrain⟩ := hlines next
    obtain ⟨stage', columns', hdrain'⟩ := hlines (.recorder #[])
    obtain ⟨hok, harrivals⟩ := arrivals_handOn lines
    refine .inr ⟨lines, stage, columns, ?_, hdrain⟩
    rw [hdrain', Step.map_outcome, hok]
    exact congrArg Except.ok harrivals

/-- What a stage of groups hands on is the rows for the groups of its records. -/
theorem handsTo_grouped {components : List Component} {order : GroupOrder}
    {notices : List Notice}
    (hbuild : Stage.buildBody (.aggregate components) order next = .ok (table, notices)) :
    table.HandsTo next (Stage.grouped components order) := by
  constructor
  · intro rows records lines hrows hmade
    rcases drain_buildBody hbuild hrows with ⟨e, herror, -⟩ | ⟨lines', stage, columns, hok, hdrain⟩
    · cases hmade.symm.trans herror
    · cases hmade.symm.trans hok
      exact ⟨_, grouped stage columns, mapM_ofFields lines, fun _ ↦ rfl, hdrain⟩
  · intro rows records e hrows hmade
    rcases drain_buildBody hbuild hrows with ⟨e', herror, hfails⟩ | ⟨lines, -, -, hok, -⟩
    · cases hmade.symm.trans herror
      exact hfails
    · cases hmade.symm.trans hok

end Table

end Rollup
