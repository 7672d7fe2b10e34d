import Rollup.Number.Standard
import Rollup.Proofs.Processor
import Rollup.Proofs.Table.Explicit

/-!
# An arrow is a pipe

Two pipelines can be joined in two ways: the stages of the second can be put behind
those of the first, or the second can be given the output of the first as its input.
If the first prints columns that are read back as they are, these are the same.

The stages of the first pipeline hand on the same rows whichever table stands behind
them (`handsTo_buildStages`), so the tables of the second are drained of these rows
in one case, and of the lines printed for them in the other.  The lines have the
same fields (`Row.fields_ofLine_tabbed`), and tables know rows by their fields
(`Table.drain_congr`).  That the filters which are handed on stop between the
pipelines is `Pipeline.handOn_append`.
-/

namespace Rollup

open Outcome

/-! ## Stages behind stages -/

namespace Pipeline

variable {engine : PatternEngine} {orders : Nat → GroupOrder} {stages others : List Stage}
  {pending : List Filter} {last : Table} {rank : Nat} {built : Table × List Notice}

/-- The last stage prints columns of its own. -/
def EndsExplicit (stages : List Stage) : Prop :=
  ∃ s, stages.getLast? = some s ∧ s.isImplicit = false

theorem EndsExplicit.tail {s next : Stage} {rest : List Stage}
    (h : EndsExplicit (s :: next :: rest)) : EndsExplicit (next :: rest) := by
  rwa [EndsExplicit, List.getLast?_cons_cons] at h

/-- No filter is handed on to other pipelines. -/
theorem handOn_append (h : EndsExplicit stages) (hothers : others ≠ []) (pending : List Filter) :
    handOn pending (stages ++ others) = handOn pending stages ++ handOn [] others := by
  obtain ⟨other, others, rfl⟩ := List.exists_cons_of_ne_nil hothers
  fun_induction handOn pending stages with
  | case1 =>
    obtain ⟨s, hs, -⟩ := h
    cases hs
  | case2 pending s =>
    obtain ⟨t, ht, himplicit⟩ := h
    obtain rfl : s = t := Option.some.inj ht
    rw [List.singleton_append, handOn, if_neg (ne_true_of_eq_false himplicit)]
    rfl
  | case3 pending s next rest himplicit ih =>
    rw [List.cons_append, List.cons_append, handOn, if_pos himplicit]
    exact ih h.tail
  | case4 pending s next rest himplicit ih =>
    rw [List.cons_append, List.cons_append, handOn, if_neg himplicit, List.cons_append]
    exact congrArg _ (ih h.tail)

theorem not_isImplicit_handOn (h : EndsExplicit stages) (pending : List Filter) :
    ∀ s ∈ handOn pending stages, s.isImplicit = false := by
  fun_induction handOn pending stages with
  | case1 => exact List.forall_mem_nil _
  | case2 pending s =>
    obtain ⟨t, ht, himplicit⟩ := h
    obtain rfl : s = t := Option.some.inj ht
    exact List.forall_mem_singleton.2 himplicit
  | case3 pending s next rest himplicit ih => exact ih h.tail
  | case4 pending s next rest himplicit ih =>
    exact List.forall_mem_cons.2 ⟨eq_false_of_ne_true himplicit, ih h.tail⟩

/-- Stages that group rows stay. -/
theorem countP_handOn (pending : List Filter) (stages : List Stage) :
    (handOn pending stages).countP Stage.isAggregating = stages.countP Stage.isAggregating := by
  fun_induction handOn pending stages with
  | case1 => rfl
  | case2 pending s => rfl
  | case3 pending s next rest himplicit ih =>
    have hs : ¬ s.isAggregating = true :=
      ne_true_of_eq_false (Stage.isAggregating_of_isImplicit himplicit)
    rw [ih, List.countP_cons_of_neg hs]
  | case4 pending s next rest himplicit ih =>
    rw [List.countP_cons, ih, List.countP_cons (a := s)]
    rfl

/-- The tables of stages that stand in front of others are built in front of theirs. -/
theorem buildStages_append {table next : Table} {notices behind : List Notice}
    (hothers : buildStages engine orders last (rank + stages.countP Stage.isAggregating) others =
      .ok (next, behind))
    (hstages : buildStages engine orders next rank stages = .ok (table, notices)) :
    buildStages engine orders last rank (stages ++ others) = .ok (table, behind ++ notices) := by
  induction stages generalizing rank table notices with
  | nil =>
    cases hstages
    rw [List.nil_append, List.append_nil]
    exact hothers
  | cons s rest ih =>
    obtain ⟨⟨first, notices'⟩, hfirst, h⟩ := bind_eq_ok.1 hstages
    obtain ⟨⟨built, own⟩, hbuilt, h⟩ := bind_eq_ok.1 h
    cases h
    have hrank : rank + (s :: rest).countP Stage.isAggregating =
        (if s.isAggregating then rank + 1 else rank) + rest.countP Stage.isAggregating := by
      rw [List.countP_cons]
      split <;> omega
    rw [hrank] at hothers
    rw [List.cons_append, buildStages, ih hothers hfirst, ok_bind]
    dsimp only
    rw [hbuilt, ok_bind, ← List.append_assoc]
    rfl

/-- The orders of the groups are counted from the front of a pipeline. -/
theorem buildStages_shift (n rank : Nat) (stages : List Stage) :
    buildStages engine (fun i ↦ orders (n + i)) last rank stages =
      buildStages engine orders last (n + rank) stages := by
  induction stages generalizing rank with
  | nil => rfl
  | cons s rest ih =>
    have hrank : n + (if s.isAggregating then rank + 1 else rank) =
        if s.isAggregating then n + rank + 1 else n + rank := by
      split <;> rfl
    rw [buildStages, ih, hrank]
    rfl

/-- Stages that print columns of their own can be built in front of any table. -/
theorem exists_buildStages (hexplicit : ∀ s ∈ stages, s.isImplicit = false)
    (h : buildStages engine orders last rank stages = .ok built) (last' : Table) :
    ∃ built, buildStages engine orders last' rank stages = .ok built := by
  induction stages generalizing rank built with
  | nil => exact ⟨_, rfl⟩
  | cons s rest ih =>
    rw [List.forall_mem_cons] at hexplicit
    obtain ⟨⟨next, behind⟩, hnext, h⟩ := bind_eq_ok.1 h
    obtain ⟨⟨table, notices⟩, htable, -⟩ := bind_eq_ok.1 h
    refine exists_buildStages_cons (ih hexplicit.2 hnext) fun next' _ _ ↦ ?_
    have hfilters : Stage.build engine (orders rank) { s with filters := [] ++ s.filters } next =
        .ok (table, notices) := htable
    obtain ⟨-, hbuilt⟩ := Stage.exists_build_explicit hfilters next'
    rwa [Stage.explicit_of_not_isImplicit hexplicit.1] at hbuilt

/-! ### Normal forms -/

theorem EndsExplicit.ne_nil (h : EndsExplicit stages) : stages ≠ [] := by
  rintro rfl
  obtain ⟨s, hs, -⟩ := h
  cases hs

theorem EndsExplicit.not_idle_handOn (h : EndsExplicit stages) (pending : List Filter) :
    ∀ s ∈ handOn pending stages, isIdle s = false :=
  fun s hs ↦ not_idle_of_not_isImplicit (ne_true_of_eq_false (not_isImplicit_handOn h pending s hs))

/-- The stages of each pipeline are those of its own normal form. -/
theorem normalize_append (h : EndsExplicit stages) (hothers : others ≠ [])
    (hidle : ∀ s ∈ handOn [] others, isIdle s = false) :
    normalize ⟨stages ++ others⟩ = ⟨handOn [] stages ++ handOn [] others⟩ := by
  have happend := handOn_append h hothers []
  rw [← happend]
  refine normalize_of_not_idle (List.append_ne_nil_of_left_ne_nil h.ne_nil _) ?_
  rw [happend]
  exact List.forall_mem_append.2 ⟨h.not_idle_handOn [], hidle⟩

end Pipeline

/-! ## Lines that are read back -/

/-- A value that is read back from a line: it is not empty, and nothing in it ends a
field or a line. -/
def Clean (value : Bytes) : Prop :=
  value ≠ [] ∧ ∀ b ∈ value, Row.isSeparator b = false ∧ b ≠ 0x0A

theorem Clean.isField {value : Bytes} (h : Clean value) : Row.IsField value :=
  ⟨h.1, fun b hb ↦ (h.2 b hb).1⟩

namespace Row

variable {record : Record} {value : Bytes}

theorem joined_tabbed (record : Record) : Joined record (Writer.tabbed record) := by
  fun_induction Writer.tabbed record with
  | case1 => exact .nil
  | case2 last => exact .single last
  | case3 value next rest ih =>
    have htab : IsGap [0x09] := List.forall_mem_singleton.2 rfl
    exact .cons (List.cons_ne_nil _ _) htab ih

theorem fields_ofLine_tabbed (h : ∀ value ∈ record, Clean value) :
    (ofLine (Writer.tabbed record)).fields = .ok record := by
  have hnothing : IsGap [] := List.forall_mem_nil _
  have hfields := fields_of_joined (joined_tabbed record)
    (fun value hvalue ↦ (h value hvalue).isField) hnothing hnothing
  rwa [List.append_nil, List.nil_append] at hfields

end Row

theorem Writer.mem_tabbed {record : Record} {b : UInt8} (h : b ∈ tabbed record) :
    b = 0x09 ∨ ∃ value ∈ record, b ∈ value := by
  fun_induction tabbed record with
  | case1 => cases h
  | case2 last => exact .inr ⟨last, List.mem_singleton_self last, h⟩
  | case3 value next rest ih =>
    rcases List.mem_append.1 h with hvalue | hrest
    · exact .inr ⟨value, List.mem_cons_self, hvalue⟩
    · rcases List.mem_cons.1 hrest with rfl | hrest
      · exact .inl rfl
      · exact (ih hrest).imp_right fun ⟨value, hvalue, hb⟩ ↦
          ⟨value, List.mem_cons_of_mem _ hvalue, hb⟩

/-- The lines of what is printed are the lines that were printed. -/
theorem Lines.cuts_printed {records : List Record}
    (h : ∀ record ∈ records, ∀ value ∈ record, Clean value) :
    Cuts (Record.printed records) (records.map Writer.tabbed) [] where
  data_eq := by
    rw [List.append_nil, List.flatMap_map]
    rfl
  whole := by
    rw [List.forall_mem_map]
    intro record hrecord hmem
    rcases Writer.mem_tabbed hmem with hb | ⟨value, hvalue, hb⟩
    · cases hb
    · exact ((h record hrecord value hvalue).2 _ hb).2 rfl
  unfinished := List.not_mem_nil

theorem Lines.of_printed {records : List Record}
    (h : ∀ record ∈ records, ∀ value ∈ record, Clean value) :
    Lines.of (Record.printed records) = records.map Writer.tabbed := by
  rw [Lines.of, (cuts_printed h).cut_eq]
  exact List.append_nil _

/-- Lines that were printed are read back as the rows that they were printed for. -/
theorem Row.mapM_ofLine_tabbed {records : List Record}
    (h : ∀ record ∈ records, ∀ value ∈ record, Clean value) :
    ((records.map Writer.tabbed).map Row.ofLine).mapM Row.fields = .ok records := by
  rw [mapM_eq_ok_iff, List.map_map, List.forall₂_map_left_iff, List.forall₂_same]
  exact fun record hrecord ↦ Row.fields_ofLine_tabbed (h record hrecord)

/-! ## Runs -/

theorem Table.exists_sink_of_output {step : Step Error Table} {bytes : Bytes}
    (h : output step = .ok (some bytes)) :
    ∃ sink, step.state.sink? = some sink ∧ sink.received = bytes := by
  obtain ⟨-, -, h⟩ := map_eq_ok.1 h
  exact Option.map_eq_some_iff.1 h

section

variable [NumberReader]

namespace Processor

/-- Gives lines to the pipeline and ends the run. -/
def run (p : Processor) (lines : List Bytes) : Step Error Processor :=
  (p.pushLines lines).andThen fun p ↦ p.finish.1

variable {lines : List Bytes} {table : Table} {rows : Nat}

theorem pushLines_eq (lines : List Bytes) (table : Table) (rows : Nat) :
    ∃ rows', pushLines ⟨table, rows⟩ lines =
      (Step.each Table.push (lines.map Row.ofLine) table).map (Processor.mk · rows') := by
  induction lines generalizing table rows with
  | nil => exact ⟨rows, rfl⟩
  | cons line lines ih =>
    have hline : pushLine ⟨table, rows⟩ line =
        (table.push (.ofLine line)).map (Processor.mk · (rows + 1)) := rfl
    rw [pushLines, Step.each_cons, hline, List.map_cons, Step.each_cons]
    cases hpush : (table.push (.ofLine line)).outcome with
    | error e =>
      rw [Step.map_andThen_of_error hpush, Step.andThen_of_error hpush]
      exact ⟨_, rfl⟩
    | ok u =>
      rw [Step.map_andThen_of_ok hpush, Step.andThen_of_ok hpush]
      exact ih _ _

/-- Running a processor drains its table. -/
theorem run_eq (lines : List Bytes) (table : Table) (rows : Nat) :
    ∃ rows', run ⟨table, rows⟩ lines =
      (table.drain (lines.map Row.ofLine)).map (Processor.mk · rows') := by
  obtain ⟨rows', hpush⟩ := pushLines_eq lines table rows
  refine ⟨rows', ?_⟩
  rw [run, hpush, Table.drain]
  cases hrun : (Step.each Table.push (lines.map Row.ofLine) table).outcome with
  | error e => rw [Step.map_andThen_of_error hrun, Step.andThen_of_error hrun]
  | ok u =>
    rw [Step.map_andThen_of_ok hrun, Step.andThen_of_ok hrun]
    rfl

theorem outcome_run (lines : List Bytes) (table : Table) (rows : Nat) :
    (run ⟨table, rows⟩ lines).outcome = (table.drain (lines.map Row.ofLine)).outcome := by
  obtain ⟨rows', hrun⟩ := run_eq lines table rows
  rw [hrun, Step.map_outcome]

theorem table_run (lines : List Bytes) (table : Table) (rows : Nat) :
    (run ⟨table, rows⟩ lines).state.table = (table.drain (lines.map Row.ofLine)).state := by
  obtain ⟨rows', hrun⟩ := run_eq lines table rows
  rw [hrun, Step.map_state]

end Processor

end

namespace Pipeline

variable {engine : PatternEngine} {orders : Nat → GroupOrder} {a b : Pipeline} {text : String}
  {behaviour : SinkBehaviour} {threshold : Nat}

/-- The rows that the stages of a pipeline make of some lines. -/
def rows [NumberReader] (engine : PatternEngine) (orders : Nat → GroupOrder) (p : Pipeline)
    (lines : List Bytes) : Except Error (List Record) := do
  let records ← lines.mapM fun line ↦ (Row.ofLine line).fields
  meaningFrom engine orders 0 p.stages records

theorem exists_buildStages_of_new {p : Pipeline} {first : Processor} {notices : List Notice}
    (h : Processor.new engine orders p behaviour threshold = .ok (first, notices)) :
    ∃ table behind, buildStages engine orders (.writer (.new behaviour threshold)) 0
      p.normalize.stages = .ok (table, behind) ∧ first = ⟨table, 0⟩ := by
  obtain ⟨⟨table, notices'⟩, hbuild, h⟩ := map_eq_ok.1 h
  obtain ⟨⟨table', behind⟩, hstages, hbuild⟩ := bind_eq_ok.1 hbuild
  cases hbuild
  cases h
  exact ⟨table, behind, hstages, rfl⟩

theorem new_of_buildStages {p : Pipeline} {table : Table} {behind : List Notice}
    (h : buildStages engine orders (.writer (.new behaviour threshold)) 0 p.normalize.stages =
      .ok (table, behind)) :
    ∃ notices, Processor.new engine orders p behaviour threshold = .ok (⟨table, 0⟩, notices) := by
  refine ⟨.compiling p.normalize :: behind, ?_⟩
  rw [Processor.new, build]
  dsimp only
  rw [h]
  rfl

theorem not_idle_of_parse_not_blank (hparse : Spec.parse text = .ok b)
    (hblank : ∃ c ∈ text.toList, isAsciiBlank c = false) :
    b.stages ≠ [] ∧ ∀ s ∈ handOn [] b.stages, isIdle s = false := by
  obtain ⟨first, rest, hstages, hrest⟩ := Spec.not_idle_of_parse hparse
  obtain ⟨stages⟩ := b
  obtain rfl : stages = first :: rest := hstages
  refine ⟨List.cons_ne_nil _ _, not_idle_handOn_cons hrest ?_⟩
  rintro rfl
  exact Spec.not_idle_of_not_blank hparse hblank

/-- In front of whatever table, a pipeline that ends with columns of its own hands on the
rows that its stages make. -/
theorem handsTo_of_endsExplicit [NumberReader] {table last : Table} {notices : List Notice}
    (hends : EndsExplicit a.stages)
    (h : buildStages engine orders last 0 (handOn [] a.stages) = .ok (table, notices)) :
    table.HandsTo last (meaningFrom engine orders 0 a.stages) := by
  have hhands := handsTo_buildStages (not_isImplicit_handOn hends []) h
  rwa [funext (meaningFrom_handOn_nil hends.ne_nil 0)] at hhands

theorem exists_records (lines : List Bytes) :
    ∃ records, (lines.mapM fun line ↦ (Row.ofLine line).fields) = .ok records ∧
      (lines.map Row.ofLine).mapM Row.fields = .ok records := by
  obtain ⟨records, hrecords⟩ := exists_mapM fun line (_ : line ∈ lines) ↦ Row.fields_ofLine line
  exact ⟨records, hrecords, by rw [List.mapM_map]; exact hrecords⟩

/-- An arrow is a pipe.  Whenever a pipeline that ends with columns of its own succeeds on some
lines and what it prints is read back as it is, its stages with those of a spec behind them do
to the sink what the spec does to it when it is given what was printed, and fail like it or
succeed.  The groups of each stage are to be in the same order both times. -/
theorem run_append [NumberReader] {first second : Processor} {behaviour' : SinkBehaviour}
    {threshold' : Nat} {notices notices' : List Notice} (hparse : Spec.parse text = .ok b)
    (hblank : ∃ c ∈ text.toList, isAsciiBlank c = false) (hends : EndsExplicit a.stages)
    (hfirst : Processor.new engine orders a behaviour threshold = .ok (first, notices))
    (hsecond : Processor.new engine
      (fun i ↦ orders (a.stages.countP Stage.isAggregating + i)) b behaviour' threshold' =
        .ok (second, notices')) :
    ∃ joined notices'', Processor.new engine orders ⟨a.stages ++ b.stages⟩ behaviour' threshold' =
        .ok (joined, notices'') ∧
      ∀ lines, (first.run lines).outcome = .ok () → ∃ made sink,
        a.rows engine orders lines = .ok made ∧
        (first.run lines).state.table.sink? = some sink ∧ sink.received = Record.printed made ∧
        ((∀ record ∈ made, ∀ value ∈ record, Clean value) →
          let piped := (second.process sink.received).andThen fun second ↦ second.finish.1
          (joined.run lines).outcome = piped.outcome ∧
            (joined.run lines).state.table.sink? = piped.state.table.sink?) := by
  obtain ⟨table, others, htable, rfl⟩ := exists_buildStages_of_new hfirst
  obtain ⟨last, behind, hlast, rfl⟩ := exists_buildStages_of_new hsecond
  obtain ⟨hne, hidle⟩ := not_idle_of_parse_not_blank hparse hblank
  rw [normalize_of_not_idle hends.ne_nil (hends.not_idle_handOn [])] at htable
  rw [normalize_of_not_idle hne hidle, buildStages_shift, ← countP_handOn []] at hlast
  -- The tables of the first pipeline are built again, in front of those of the second.
  obtain ⟨⟨joined, others'⟩, hjoined⟩ :=
    exists_buildStages (not_isImplicit_handOn hends []) htable last
  have happend : buildStages engine orders (.writer (.new behaviour' threshold')) 0
      (normalize ⟨a.stages ++ b.stages⟩).stages = .ok (joined, behind ++ others') := by
    rw [normalize_append hends hne hidle]
    refine buildStages_append ?_ hjoined
    rwa [Nat.add_comm]
  obtain ⟨notices'', hnew⟩ := new_of_buildStages happend
  refine ⟨⟨joined, 0⟩, notices'', hnew, fun lines hok ↦ ?_⟩
  rw [Processor.outcome_run] at hok
  simp only [Processor.outcome_run, Processor.table_run]
  obtain ⟨records, hrecords, hrows⟩ := exists_records lines
  have hprints := handsTo_of_endsExplicit hends htable
  have hhands := handsTo_of_endsExplicit hends hjoined
  cases hmade : meaningFrom engine orders 0 a.stages records with
  | error e => cases (hprints.error hrows hmade).symm.trans hok
  | ok made =>
    obtain ⟨printed, f, hprinted, hf, hdrain⟩ := hprints.ok hrows hmade
    obtain ⟨handed, g, hhanded, hg, hdrain'⟩ := hhands.ok hrows hmade
    have houtput : Table.output (table.drain (lines.map Row.ofLine)) =
        .ok (some (Record.printed made)) := by
      rw [hdrain, Table.output_map hf]
      exact Table.printsLines_writer.output_of_ok hprinted
        ((congrArg Step.outcome hdrain).symm.trans hok)
    obtain ⟨sink, hsink, hreceived⟩ := Table.exists_sink_of_output houtput
    refine ⟨made, sink, ?_, hsink, hreceived, fun hclean ↦ ?_⟩
    · rw [rows, hrecords]
      exact hmade
    · have hpiped : (Processor.process ⟨last, 0⟩ sink.received).andThen
          (fun second ↦ second.finish.1) = Processor.run ⟨last, 0⟩ (made.map Writer.tabbed) := by
        rw [hreceived, Processor.process, Lines.of_printed hclean]
        rfl
      rw [hpiped, Processor.outcome_run, Processor.table_run, hdrain',
        Table.drain_congr hhanded (Row.mapM_ofLine_tabbed hclean)]
      exact ⟨rfl, hg _⟩

open Standard

/-- Groups are counted, and those of two are printed the other way round. -/
theorem run_append_counts :
    let engine : PatternEngine :=
      fun pattern ↦ .ok fun value ↦ pattern.toList.all fun c ↦ value.contains c.toNat.toUInt8
    let orders : Nat → GroupOrder := fun _ ↦ .sorted
    let a : Pipeline := ⟨[⟨[], .aggregate [.key 0, .count]⟩]⟩
    let b : Pipeline := ⟨[⟨[⟨1, "2"⟩], .project [1, 0]⟩]⟩
    let lines : List Bytes := [[97, 32, 49], [98, 32, 49], [97, 32, 50]]
    Spec.parse "f1~2 _1 _0" = .ok b ∧ ∃ first second joined notices notices' notices'' sink,
      Processor.new engine orders a .reliable 9 = .ok (first, notices) ∧
        Processor.new engine orders b .reliable 0 = .ok (second, notices') ∧
          Processor.new engine orders ⟨a.stages ++ b.stages⟩ .reliable 0 =
            .ok (joined, notices'') ∧
          (first.run lines).state.table.sink? = some sink ∧
            sink.received = [97, 9, 50, 10, 98, 9, 49, 10] ∧
            (joined.run lines).state.table.sink? = ((second.process sink.received).andThen
              fun second ↦ second.finish.1).state.table.sink? := by
  intro engine orders a b lines
  have hparse : Spec.parse "f1~2 _1 _0" = .ok b := by decide +kernel
  have hblank : ∃ c ∈ "f1~2 _1 _0".toList, isAsciiBlank c = false := ⟨'f', by decide, by decide⟩
  obtain ⟨first, notices, hfirst⟩ : ∃ first notices,
      Processor.new engine orders a .reliable 9 = .ok (first, notices) := ⟨_, _, rfl⟩
  obtain ⟨second, notices', hsecond⟩ : ∃ second notices',
      Processor.new engine orders b .reliable 0 = .ok (second, notices') := ⟨_, _, rfl⟩
  obtain ⟨joined, notices'', hjoined, hruns⟩ :=
    run_append hparse hblank ⟨_, rfl, rfl⟩ hfirst hsecond
  have hrows : a.rows engine orders lines = .ok [[[97], [50]], [[98], [49]]] := by decide +kernel
  have hok : (first.run lines).outcome = .ok () := by
    cases hfirst
    decide +kernel
  obtain ⟨made, sink, hmade, hsink, hreceived, hpiped⟩ := hruns lines hok
  cases hrows.symm.trans hmade
  refine ⟨hparse, first, second, joined, notices, notices', notices'', sink, hfirst, hsecond,
    hjoined, hsink, hreceived, (hpiped ?_).2⟩
  unfold Clean
  decide +kernel

end Pipeline

end Rollup
