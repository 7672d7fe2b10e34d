import Rollup.Proofs.Table.SecureChain

/-!
# What is left of a used chain

Rows and the rendering of groups leave much behind: arenas, sets, numbers of groups, counts,
and what was last written in the columns.  They do not touch what a chain is made of.  A chain
stays orderly, so that whatever is left in its stages is accounted for (`Table.Orderly`), and
if all that is left is taken away, it is always the same chain (`Table.renewed`).  Both are
kept by whatever the chain is asked to do (`Table.Remains`, `remains_serveAll`).
-/

namespace Rollup

open Outcome Rollup.Bundle

open Grouping (place Fits Ready aggregatesOf)

/-! ## Stages of groups -/

namespace GroupStage

variable {stage : GroupStage} {columns columns' : Columns} {row : Row}

/-- All groups of the stage can be rendered with these columns, in which nothing stands that is
not written again for every group.  The stage has used no more numbers and handles than it was
given rows. -/
structure Orderly (columns : Columns) (stage : GroupStage) : Prop where
  secure : stage.Secure columns.size
  intact : stage.Intact stage.grouping.keys stage.rows
  fits : Fits stage.grouping.keys (aggregatesOf stage.bundle.slots) columns.size
  ready : Ready stage.grouping.keys (aggregatesOf stage.bundle.slots) columns.size columns

namespace Orderly

theorem after [NumberReader] (h : stage.Orderly columns) (row : Row) :
    (stage.after row).Orderly columns := by
  obtain ⟨hplaces, -, hkeys⟩ := after_places h.secure.placed row
  have haggregates := Table.aggregatesOf_congr hplaces
  refine ⟨h.secure.after row, ?_, ?_, ?_⟩
  · rw [hkeys]
    exact intact_after h.intact row
  · rw [hkeys, haggregates]
    exact h.fits
  · rw [hkeys, haggregates]
    exact h.ready

theorem clear (h : stage.Orderly columns) :
    Orderly columns { stage with grouping := stage.grouping.clear } :=
  ⟨h.secure.clear, intact_clear h.intact, h.fits, h.ready⟩

/-- Columns in which a group has been rendered are as good. -/
theorem of_ready (h : stage.Orderly columns)
    (hready : Ready stage.grouping.keys (aggregatesOf stage.bundle.slots) columns.size columns') :
    stage.Orderly columns' := by
  obtain ⟨hsecure, hintact, hfits, -⟩ := h
  rw [← hready.size_eq] at hsecure hfits hready
  exact ⟨hsecure, hintact, hfits, hready⟩

/-- Any order of the groups is as good. -/
theorem reorder (h : stage.Orderly columns) (order : GroupOrder) :
    Orderly columns { stage with order } where
  secure := ⟨h.secure.placed, h.secure.capacity_eq, h.secure.hasRoom, h.secure.coded,
    h.secure.counts, h.secure.column_lt⟩
  intact := ⟨h.intact.keys_eq, h.intact.placed, h.intact.slots⟩
  fits := h.fits
  ready := h.ready

end Orderly

theorem orderly_new {bundle : Bundle} {keys : List Key} {width : Nat} (hfresh : bundle.Fresh)
    (hroom : bundle.HasRoom) (hfits : Fits keys (aggregatesOf bundle.slots) width)
    (order : GroupOrder) : Orderly (.blank width) ⟨.new keys, bundle, 0, order⟩ := by
  have hready := Table.ready_blank keys (aggregatesOf bundle.slots) width
  have hsize : (Columns.blank width).size = width := hready.size_eq
  refine ⟨?_, intact_new hfresh keys 0 order, ?_, ?_⟩
  · rw [hsize]
    exact secure_new hfresh hroom hfits.lt_width order
  · rw [hsize]
    exact hfits
  · rw [hsize]
    exact hready

end GroupStage

/-! ## Renewed chains -/

/-- The slot with an aggregator without groups. -/
def Slot.renewed (slot : Slot) : Slot :=
  { slot with aggregator := .new slot.aggregator.aggregate }

/-- The bundle with aggregators without groups. -/
def Bundle.renewed (bundle : Bundle) : Bundle :=
  { bundle with slots := bundle.slots.map Slot.renewed }

/-- The stage without groups, and without anything that its groups have left. -/
def GroupStage.renewed (order : GroupOrder) (stage : GroupStage) : GroupStage :=
  ⟨.new stage.grouping.keys, stage.bundle.renewed, 0, order⟩

/-- The places of its slots are what is left of a bundle. -/
theorem Bundle.renewed_congr {bundle bundle' : Bundle}
    (hplaces : bundle'.slots.map place = bundle.slots.map place)
    (hcapacity : bundle'.capacity = bundle.capacity) : bundle'.renewed = bundle.renewed := by
  have hslots (slots : List Slot) : slots.map Slot.renewed =
      (slots.map place).map fun (aggregate, offset, size) ↦ ⟨.new aggregate, offset, size⟩ := by
    rw [List.map_map]
    rfl
  rw [renewed, renewed, hslots, hslots, hplaces, hcapacity]

theorem GroupStage.renewed_after [NumberReader] {stage : GroupStage} {columns : Columns}
    (h : stage.Orderly columns) (row : Row) (order : GroupOrder) :
    (stage.after row).renewed order = stage.renewed order := by
  obtain ⟨hplaces, hcapacity, hkeys⟩ := after_places h.secure.placed row
  rw [renewed, renewed, hkeys, Bundle.renewed_congr hplaces hcapacity]

namespace Table

/-- The chain as if it had just been built, with these orders of groups and this writer.  Of the
aggregating stages `rank` stand in front of it. -/
def renewed (orders : Nat → GroupOrder) (out : Writer) : (rank : Nat) → Table → Table
  | _, .writer _ => .writer out
  | _, .passthrough _ => .passthrough out
  | _, .recorder _ => .recorder #[]
  | rank, .filtered tests _ inner => .filtered tests 0 (inner.renewed orders out rank)
  | rank, .projection fields _ next =>
    .projection fields (.blank fields.length) (next.renewed orders out rank)
  | rank, .grouped stage columns next =>
    .grouped (stage.renewed (orders rank)) (.blank columns.size)
      (next.renewed orders out (rank + 1))

/-- The same chain, whose stages render their groups in these orders from now on.  Of the
aggregating stages `rank` stand in front of it. -/
def reorder (orders : Nat → GroupOrder) : (rank : Nat) → Table → Table
  | _, .writer out => .writer out
  | _, .passthrough out => .passthrough out
  | _, .recorder arrivals => .recorder arrivals
  | rank, .filtered tests dropped inner => .filtered tests dropped (inner.reorder orders rank)
  | rank, .projection fields columns next => .projection fields columns (next.reorder orders rank)
  | rank, .grouped stage columns next =>
    .grouped { stage with order := orders rank } columns (next.reorder orders (rank + 1))

/-! ## Chains in use -/

/-- The stages of the chain are orderly, and its sink never fails. -/
def Orderly (threshold : Nat) : Table → Prop
  | .writer out | .passthrough out => out.sink.behaviour.NeverFails ∧ out.threshold = threshold
  | .recorder _ => False
  | .filtered _ _ inner => inner.Orderly threshold
  | .projection fields columns next => columns.size = fields.length ∧ next.Orderly threshold
  | .grouped stage columns next => stage.Orderly columns ∧ next.Orderly threshold

/-- The chain has become an orderly chain, which is the same when it is renewed, and renders its
groups in the orders that it did. -/
structure Remains (threshold : Nat) (before after : Table) : Prop where
  orderly : after.Orderly threshold
  renewed_eq : ∀ orders out rank, after.renewed orders out rank = before.renewed orders out rank
  reorder_eq : ∀ {orders rank}, before.reorder orders rank = before →
    after.reorder orders rank = after

namespace Remains

variable {threshold : Nat} {before mid after : Table}

theorem refl (h : before.Orderly threshold) : Remains threshold before before :=
  ⟨h, fun _ _ _ ↦ rfl, id⟩

theorem trans (h : Remains threshold before mid) (h' : Remains threshold mid after) :
    Remains threshold before after where
  orderly := h'.orderly
  renewed_eq orders out rank := (h'.renewed_eq orders out rank).trans (h.renewed_eq orders out rank)
  reorder_eq horders := h'.reorder_eq (h.reorder_eq horders)

/-- How many rows have been dropped is forgotten. -/
theorem filtered (h : Remains threshold before after) (tests : List FieldTest)
    (dropped dropped' : Nat) :
    Remains threshold (.filtered tests dropped before) (.filtered tests dropped' after) where
  orderly := h.orderly
  renewed_eq orders out rank := congrArg (Table.filtered tests 0) (h.renewed_eq orders out rank)
  reorder_eq horders :=
    congrArg (Table.filtered tests dropped') (h.reorder_eq (Table.filtered.inj horders).2.2)

/-- What stands in the columns is forgotten. -/
theorem projection (h : Remains threshold before after) {fields : List Nat} (columns : Columns)
    {columns' : Columns} (hsize : columns'.size = fields.length) :
    Remains threshold (.projection fields columns before) (.projection fields columns' after) where
  orderly := ⟨hsize, h.orderly⟩
  renewed_eq orders out rank := congrArg (Table.projection fields _) (h.renewed_eq orders out rank)
  reorder_eq horders :=
    congrArg (Table.projection fields _) (h.reorder_eq (Table.projection.inj horders).2.2)

/-- A stage of groups is left with its keys, its bundle and its order. -/
theorem grouped (h : Remains threshold before after) {stage stage' : GroupStage}
    {columns columns' : Columns} (hstage : stage'.Orderly columns')
    (hsize : columns'.size = columns.size)
    (hrenewed : ∀ order, stage'.renewed order = stage.renewed order)
    (horder : stage'.order = stage.order) :
    Remains threshold (.grouped stage columns before) (.grouped stage' columns' after) where
  orderly := ⟨hstage, h.orderly⟩
  renewed_eq orders out rank := by
    rw [renewed, renewed, hsize, hrenewed, h.renewed_eq]
  reorder_eq {orders rank} horders := by
    obtain ⟨hsame, -, hnext⟩ := Table.grouped.inj horders
    have horder' : stage'.order = orders rank :=
      horder.trans (congrArg GroupStage.order hsame).symm
    rw [reorder, h.reorder_eq hnext, ← horder']

end Remains

variable [NumberReader] {table next : Table} {threshold : Nat} {row : Row} {rows : List Row}
  {stage : GroupStage} {columns : Columns}

theorem remains_push (h : table.Orderly threshold) (hrow : row.Readable) :
    Remains threshold table (table.push row).state := by
  induction table generalizing row with
  | writer out =>
    obtain ⟨record, hrecord⟩ := hrow
    simp only [push, hrecord]
    have hbehaviour := (Writer.writeLine_ok h.1 (Writer.tabbed record)).2.1
    have hthreshold := (out.writeLine_received (Writer.tabbed record)).2.1
    exact ⟨⟨hbehaviour.symm ▸ h.1, hthreshold.trans h.2⟩, fun _ _ _ ↦ rfl, fun _ ↦ rfl⟩
  | passthrough out =>
    obtain ⟨value, hvalue⟩ := hrow.exists_field 0
    simp only [push, hvalue]
    have hbehaviour := (Writer.writeLine_ok h.1 value).2.1
    have hthreshold := (out.writeLine_received value).2.1
    exact ⟨⟨hbehaviour.symm ▸ h.1, hthreshold.trans h.2⟩, fun _ _ _ ↦ rfl, fun _ ↦ rfl⟩
  | recorder arrivals => exact h.elim
  | filtered tests dropped inner ih =>
    simp only [push]
    split
    · exact .refl h
    · exact (ih h hrow).filtered ..
    · have hinner : inner.Orderly threshold := h
      exact (Remains.refl hinner).filtered ..
  | projection fields columns next ih =>
    obtain ⟨record, hrecord⟩ := hrow
    rw [push_projection h.1 hrecord]
    exact (ih h.2 (Row.readable_ofFields _)).projection columns (by simp)
  | grouped stage columns next ih =>
    exact .grouped (.refl h.2) (h.1.after row) rfl (GroupStage.renewed_after h.1 row) rfl

theorem remains_each (h : table.Orderly threshold) (hrows : ∀ row ∈ rows, row.Readable) :
    Remains threshold table (Step.each push rows table).state :=
  Step.each_keeps (p := Remains threshold table)
    (fun row hrow _ h ↦ h.trans (remains_push h.orderly (hrows row hrow))) (.refl h)

/-- The rows that a stage hands on depend on the stage alone, and leave it orderly. -/
theorem exists_handed (h : stage.Orderly columns)
    (hdata : ¬ (stage.grouping.keys = [] ∧ stage.grouping.size = 0)) :
    ∃ rows : List Row, (∀ row ∈ rows, row.Readable) ∧
      ∀ columns' next, columns'.size = columns.size → stage.Orderly columns' →
        ∃ columns'', columns''.size = columns.size ∧ stage.Orderly columns'' ∧
          emitGroups stage columns' next =
            (Step.each push rows next).map fun next ↦ (columns'', next) := by
  obtain ⟨lines, -, hemit⟩ := emitGroups_renders h.secure h.fits hdata
  refine ⟨lines.map Row.ofFields, ?_, fun columns' next hsize horderly ↦ ?_⟩
  · intro row hrow
    obtain ⟨line, -, rfl⟩ := List.mem_map.1 hrow
    exact Row.readable_ofFields line
  · obtain ⟨columns'', hready, heq⟩ := hemit columns' next (hsize ▸ horderly.ready)
    exact ⟨columns'', hready.size_eq, h.of_ready hready, heq⟩

theorem remains_emitGroups (h : stage.Orderly columns) (hnext : next.Orderly threshold) :
    stage.Orderly (emitGroups stage columns next).state.1 ∧
      (emitGroups stage columns next).state.1.size = columns.size ∧
      Remains threshold next (emitGroups stage columns next).state.2 := by
  by_cases hdata : stage.grouping.keys = [] ∧ stage.grouping.size = 0
  · rw [emitGroups_of_noData hdata]
    exact ⟨h, rfl, .refl hnext⟩
  · obtain ⟨rows, hrows, hemit⟩ := exists_handed h hdata
    obtain ⟨columns', hsize, horderly, heq⟩ := hemit columns next rfl h
    rw [heq]
    exact ⟨horderly, hsize, remains_each hnext hrows⟩

theorem remains_finish (h : table.Orderly threshold) :
    Remains threshold table table.finish.1.state := by
  induction table using finish.induct with
  | case1 out =>
    rw [finish]
    obtain ⟨-, hbehaviour, -⟩ := Writer.flush_ok h.1
    exact ⟨⟨hbehaviour.symm ▸ h.1, out.flush_received.2.1.trans h.2⟩, fun _ _ _ ↦ rfl,
      fun _ ↦ rfl⟩
  | case2 out =>
    rw [finish]
    obtain ⟨-, hbehaviour, -⟩ := Writer.flush_ok h.1
    exact ⟨⟨hbehaviour.symm ▸ h.1, out.flush_received.2.1.trans h.2⟩, fun _ _ _ ↦ rfl,
      fun _ ↦ rfl⟩
  | case3 arrivals => exact h.elim
  | case4 tests dropped inner ih =>
    rw [finish]
    exact (ih h).filtered ..
  | case5 fields columns next ih =>
    rw [finish]
    exact (ih h.2).projection columns h.1
  | case6 stage columns next emitting e hemitting =>
    obtain ⟨hstage, hsize, hnext⟩ := remains_emitGroups h.1 h.2
    rw [finish_grouped, hemitting]
    exact .grouped hnext hstage hsize (fun _ ↦ rfl) rfl
  | case7 stage columns next emitting u hemitting hdepth ih =>
    obtain ⟨hstage, hsize, hnext⟩ := remains_emitGroups h.1 h.2
    rw [finish_grouped, hemitting]
    exact .grouped (hnext.trans (ih hnext.orderly)) hstage.clear hsize (fun _ ↦ rfl) rfl

/-- The row can be read, if it is one. -/
def Request.Readable : Request → Prop
  | .push row => row.Readable
  | .finish => True

theorem remains_serve (h : table.Orderly threshold) {request : Request}
    (hrequest : request.Readable) : Remains threshold table (table.serve request).state := by
  cases request with
  | push row => exact remains_push h hrequest
  | finish => exact remains_finish h

/-- Whatever an orderly chain is asked to do, it remains the same, were it renewed. -/
theorem remains_serveAll (h : table.Orderly threshold) {rs : List Request}
    (hrs : ∀ request ∈ rs, request.Readable) : Remains threshold table (table.serveAll rs).1 := by
  induction rs generalizing table with
  | nil => exact .refl h
  | cons request rs ih =>
    rw [List.forall_mem_cons] at hrs
    have hserved := remains_serve h hrs.1
    exact hserved.trans (ih hserved.orderly hrs.2)

end Table

end Rollup
