import Rollup.Number.Standard
import Rollup.Proofs.Table.Stage
import Rollup.Table.Build

/-!
# Tables with one aggregate

A table with one aggregate renders, for every tuple of key fields, what a new
aggregator prints that has only ever seen the rows of this tuple.  So the arena
and the set that the groups of an aggregator share cannot be noticed.
-/

namespace Rollup

open Outcome Aggregator

namespace Table

open Grouping (Line Fits Ready tuple code keyOf members aggregatesOf)

variable {stage : GroupStage} {keys : List Key} {aggregates : List Aggregate} {rows : List Row}
  {width : Nat} {tuples : List (List Bytes)}

/-- The rows of a tuple could also have been the only ones. -/
theorem ofRows_of_holds [NumberReader] (h : stage.Holds keys aggregates rows)
    (htuples : rows.mapM (tuple keys) = .ok tuples) {t : List Bytes} (ht : t ∈ tuples)
    {aggregate : Aggregate} (haggregate : aggregate ∈ aggregates) :
    ∃ m, Memory.ofRows aggregate (members keys t rows) = .ok m := by
  obtain ⟨rfl, rfl, hcoded, htracks⟩ := h
  obtain ⟨slot, hslot, rfl⟩ := List.mem_map.1 haggregate
  obtain ⟨row, hrow, htuple⟩ := (Grouping.mem_tuples_iff htuples).1 ht
  obtain ⟨k, hk⟩ := hcoded row hrow
  obtain ⟨u, hu, hcode⟩ := Grouping.keyOf_eq_ok.1 hk
  cases htuple.symm.trans hu
  have hmem : k ∈ stage.grouping.groups :=
    (Grouping.mem_groups_iff htracks htuples k).2 ⟨t, ht, hcode⟩
  obtain ⟨memories, -, hrows⟩ := htracks.tracks slot hslot
  rw [← Grouping.coded_eq_members (Grouping.length_of_tuple htuple) hcode]
  exact ⟨_, hrows k hmem⟩

/-! ## The rows of a table -/

/-- However the rows of different groups follow each other, a table with a single
aggregate has one group for every tuple of key fields, and hands on a row for it
with the tuple and what a new aggregator prints after the rows of this tuple. -/
theorem grouping_eq_alone [NumberReader] {aggregate : Aggregate} {order : GroupOrder}
    {next : Table} (hfits : Fits keys [aggregate] width)
    (hok : (Step.each push rows (grouping keys (.single aggregate) order width next)).outcome =
      .ok ()) :
    ∃ stage columns tuples ts lines,
      (Step.each push rows (grouping keys (.single aggregate) order width next)).state =
        .grouped stage columns next ∧
      rows.mapM (tuple keys) = .ok tuples ∧
      stage.grouping.size = tuples.dedup.length ∧
      ts.Perm tuples.dedup ∧
      List.Forall₂ (fun t line ↦ ∃ entries,
        alone aggregate (members keys t rows) = .ok entries ∧
        aggregate.Prints (members keys t rows) entries ∧
        line = Columns.row width ((keys.map Key.column).zip t ++ entries)) ts lines ∧
      if keys = [] ∧ rows = [] then
        (finish (.grouped stage columns next)).1 = .failed (.grouped stage columns next) .noData
      else ∃ stage' columns', (finish (.grouped stage columns next)).1 =
        (handOn lines next).map (.grouped stage' columns') := by
  have hnew : GroupStage.Holds ⟨.new keys, .single aggregate, 0, order⟩ keys [aggregate] [] :=
    holds_new (Bundle.fresh_single aggregate).sound keys 0 order
  obtain ⟨stage, hstate, hholds⟩ := run_holds hnew hok
  obtain ⟨tuples, ts, lines, htuples, hsize, hperm, hlines, hfinish⟩ := finish_holds hholds hfits
  refine ⟨stage, .blank width, tuples, ts, lines, hstate, htuples, hsize, hperm, ?_,
    hfinish _ next (ready_blank keys [aggregate] width)⟩
  have hmem : ∀ t ∈ ts, t ∈ tuples := fun t ht ↦ List.mem_dedup.1 (hperm.subset ht)
  refine ((List.forall₂_and_left ts lines).2 ⟨hmem, hlines⟩).imp fun t line hline ↦ ?_
  obtain ⟨ht, shares, hshares, rfl⟩ := hline
  obtain ⟨entries, rest, hprints, hrest, rfl⟩ := List.forall₂_cons_left_iff.1 hshares
  cases hrest
  obtain ⟨m, hm⟩ := ofRows_of_holds hholds htuples ht (List.mem_singleton_self aggregate)
  refine ⟨entries, alone_eq_of_prints hm hprints, hprints, ?_⟩
  rw [List.flatten_singleton]

open Standard

/-- Two groups take turns. -/
theorem grouping_eq_alone_turns :
    let rows : List Row := [.ofFields [[97], [49], [120]], .ofFields [[98], [53], [121]],
      .ofFields [[97], [51], [122]]]
    let aggregate : Aggregate := .bestRow .highest 1 [⟨2, 1⟩]
    let run := Step.each push rows (grouping [⟨0, 0⟩] (.single aggregate) .sorted 2 (.recorder #[]))
    Fits [⟨0, 0⟩] [aggregate] 2 ∧ run.outcome = .ok () ∧
      ∃ stage columns, run.state = .grouped stage columns (.recorder #[]) ∧
        stage.grouping.size = 2 := by
  intro rows aggregate run
  have hfits : Fits [⟨0, 0⟩] [aggregate] 2 := ⟨by decide, by decide⟩
  have hok : run.outcome = .ok () := by decide +kernel
  have hall : rows.mapM (tuple [⟨0, 0⟩]) = .ok [[[97]], [[98]], [[97]]] := by rfl
  obtain ⟨stage, columns, tuples, ts, lines, hstate, htuples, hsize, -⟩ :=
    grouping_eq_alone hfits hok
  obtain rfl : tuples = [[[97]], [[98]], [[97]]] := Except.ok.inj (htuples.symm.trans hall)
  exact ⟨hfits, hok, stage, columns, hstate, hsize.trans (by decide)⟩

end Table

end Rollup
