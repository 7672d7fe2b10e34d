import Rollup.Proofs.Output.Writer
import Rollup.Proofs.Row
import Rollup.Proofs.Table.Columns
import Rollup.Proofs.Table.Meaning

/-!
# Chains of tables do what the stages mean

`Table.Means table meaning` says what comes out of a chain of tables for any
records that its first table is drained of.  It is known of the tables that print
lines (`means_writer`, `means_passthrough`), and goes on from the table behind to
one that hands rows to it (`HandsTo.means`).

What a table hands on does not depend on the table behind it, which is why
`Table.HandsTo` can be put together along a chain (`HandsTo.trans`).  A filter and
a projection hand on at most one row for every row; what they share is proved once
(`Relays.handsTo`).
-/

namespace Rollup

open Outcome

/-- Whether a table has accepted all rows is settled by the fields they have. -/
theorem FieldTest.allAccept_eq {row : Row} {record : Record} (h : row.fields = .ok record)
    (tests : List FieldTest) : allAccept row tests = .ok (record.passes tests) := by
  induction tests with
  | nil => rfl
  | cons test tests ih =>
    rw [allAccept, Row.field_of_fields h]
    change (if test.accepts (record.field test.field) then allAccept row tests else .ok false) =
      .ok (test.accepts (record.field test.field) && record.passes tests)
    cases test.accepts (record.field test.field) with
    | true => exact ih
    | false => rfl

namespace Table

variable {rows : List Row} {records : List Record} {table next : Table}
  {meaning : List Record → Except Error (Option Bytes)}

/-- The error that a run ended with, or what is in the sink after it. -/
def output (step : Step Error Table) : Except Error (Option Bytes) :=
  step.outcome.map fun _ ↦ step.state.sink?.map Sink.received

theorem output_map {f : Table → Table} (h : ∀ table, (f table).sink? = table.sink?)
    (step : Step Error Table) : output (step.map f) = output step := by
  rw [output, output, Step.map_outcome, Step.map_state, h]

theorem output_of_error {step : Step Error Table} {e : Error} (h : step.outcome = .error e) :
    output step = .error e := by
  rw [output, h]
  rfl

theorem mapM_ofFields (records : List Record) :
    (records.map Row.ofFields).mapM Row.fields = .ok records := by
  induction records with
  | nil => rfl
  | cons record records ih =>
    exact mapM_cons_eq_ok.2 ⟨record, records, Row.fields_ofFields record, ih, rfl⟩

variable [NumberReader]

/-- What the table gives for all rows that have some records depends on the records
only, and is this. -/
def Means (table : Table) (meaning : List Record → Except Error (Option Bytes)) : Prop :=
  ∀ rows records, rows.mapM Row.fields = .ok records →
    output (table.drain rows) = meaning records

/-! ## Tables in front of others -/

/-- Of the records it is drained of the table makes others, of which it drains the table
behind it.  What else it does is not seen in the sink. -/
structure HandsTo (table next : Table) (made : List Record → Except Error (List Record)) :
    Prop where
  ok : ∀ {rows records lines}, rows.mapM Row.fields = .ok records → made records = .ok lines →
    ∃ rows' f, rows'.mapM Row.fields = .ok lines ∧ (∀ table, (f table).sink? = table.sink?) ∧
      table.drain rows = (next.drain rows').map f
  error : ∀ {rows records e}, rows.mapM Row.fields = .ok records → made records = .error e →
    (table.drain rows).outcome = .error e

namespace HandsTo

variable {made made' : List Record → Except Error (List Record)}

/-- A table that hands on all that it is given need not be there. -/
theorem refl (table : Table) : table.HandsTo table .ok where
  ok {rows _ _} hrows hmade := ⟨rows, id, hmade ▸ hrows, fun _ ↦ rfl, rfl⟩
  error _ hmade := nomatch hmade

theorem trans {last : Table} (h : table.HandsTo next made) (h' : next.HandsTo last made') :
    table.HandsTo last fun records ↦ made records >>= made' where
  ok hrows hmade := by
    obtain ⟨lines, hlines, hmade'⟩ := bind_eq_ok.1 hmade
    obtain ⟨rows', f, hrows', hsink, hdrain⟩ := h.ok hrows hlines
    obtain ⟨rows'', f', hrows'', hsink', hdrain'⟩ := h'.ok hrows' hmade'
    refine ⟨rows'', f ∘ f', hrows'', fun table ↦ (hsink _).trans (hsink' table), ?_⟩
    rw [hdrain, hdrain']
    rfl
  error {rows records e} hrows hmade := by
    cases hlines : made records with
    | error e' =>
      rw [hlines] at hmade
      cases hmade
      exact h.error hrows hlines
    | ok lines =>
      rw [hlines] at hmade
      obtain ⟨rows', f, hrows', -, hdrain⟩ := h.ok hrows hlines
      rw [hdrain, Step.map_outcome]
      exact h'.error hrows' hmade

/-- What comes out is what comes out of the table behind. -/
theorem means (h : table.HandsTo next made) (hnext : next.Means meaning) :
    table.Means fun records ↦ made records >>= meaning := by
  intro rows records hrows
  dsimp only
  cases hmade : made records with
  | error e => exact output_of_error (h.error hrows hmade)
  | ok lines =>
    obtain ⟨rows', f, hrows', hsink, hdrain⟩ := h.ok hrows hmade
    rw [hdrain, output_map hsink]
    exact hnext rows' lines hrows'

end HandsTo

/-! ## Lines -/

/-- The table prints a line for every row. -/
structure PrintsLines (make : Writer → Table) (line : Record → Bytes) : Prop where
  push : ∀ out row record, row.fields = .ok record →
    (make out).push row = (out.writeLine (line record)).map make
  finish : ∀ out, (make out).finish.1 = out.flush.map make
  sink : ∀ out, (make out).sink? = some out.sink

theorem printsLines_writer : PrintsLines writer Writer.tabbed where
  push out row record hrecord := by
    rw [push, hrecord]
    rfl
  finish out := by rw [finish]
  sink _ := rfl

theorem printsLines_passthrough : PrintsLines passthrough fun record ↦ record.field 0 where
  push out row record hrecord := by
    rw [push, Row.field_of_fields hrecord]
    rfl
  finish out := by rw [finish]
  sink _ := rfl

namespace PrintsLines

variable {make : Writer → Table} {line : Record → Bytes} {out : Writer}

/-- Nothing but the lines is printed, whatever the sink is. -/
theorem output_of_ok (h : PrintsLines make line) (hrows : rows.mapM Row.fields = .ok records)
    (hok : ((make out).drain rows).outcome = .ok ()) :
    output ((make out).drain rows) =
      .ok (some (out.written ++ records.flatMap fun record ↦ line record ++ [0x0A])) := by
  induction rows generalizing records out with
  | nil =>
    cases hrows
    rw [drain, Step.each_nil, Step.done_andThen, h.finish] at hok ⊢
    obtain ⟨-, hreceived⟩ := out.flush_received.2.2 hok
    rw [output, hok, Step.map_state, h.sink]
    simp [Except.map, hreceived]
  | cons row rows ih =>
    obtain ⟨record, records, hrecord, hrecords, rfl⟩ := mapM_cons_eq_ok.1 hrows
    rw [drain, Step.each_cons, h.push out row record hrecord, Step.andThen_assoc] at hok ⊢
    obtain ⟨hline, hrest⟩ := Step.andThen_outcome_ok.1 hok
    obtain ⟨hwritten, -⟩ := (out.writeLine_received (line record)).2.2 hline
    rw [Step.andThen_of_ok hline]
    refine (ih hrecords hrest).trans ?_
    rw [hwritten, List.flatMap_cons, List.append_assoc]

theorem drain_ok (h : PrintsLines make line) (hrows : rows.mapM Row.fields = .ok records)
    (hsink : out.sink.behaviour.NeverFails) : ((make out).drain rows).outcome = .ok () := by
  induction rows generalizing records out with
  | nil =>
    rw [drain, Step.each_nil, Step.done_andThen, h.finish]
    exact (Writer.flush_ok hsink).1
  | cons row rows ih =>
    obtain ⟨record, records, hrecord, hrecords, -⟩ := mapM_cons_eq_ok.1 hrows
    obtain ⟨hok, hbehaviour, -⟩ := Writer.writeLine_ok hsink (line record)
    rw [drain, Step.each_cons, h.push out row record hrecord, Step.map_andThen_of_ok hok]
    exact ih hrecords (hbehaviour ▸ hsink)

theorem means (h : PrintsLines make line) (hsink : out.sink.behaviour.NeverFails) :
    (make out).Means fun records ↦
      .ok (some (out.written ++ records.flatMap fun record ↦ line record ++ [0x0A])) :=
  fun _ _ hrows ↦ h.output_of_ok hrows (h.drain_ok hrows hsink)

end PrintsLines

theorem means_writer {out : Writer} (h : out.sink.behaviour.NeverFails) :
    (writer out).Means fun records ↦ .ok (some (out.written ++ Record.printed records)) :=
  printsLines_writer.means h

theorem means_passthrough {out : Writer} (h : out.sink.behaviour.NeverFails) :
    (passthrough out).Means fun records ↦
      .ok (some (out.written ++ Record.printed (records.map fun record ↦ [record.field 0]))) := by
  simp only [Record.printed, List.flatMap_map]
  exact printsLines_passthrough.means h

/-! ## Tables that hand on what they make of single rows -/

/-- For a row with the fields `record` the table hands on a row with the fields
`relay record`, or none.  What else it remembers is of no influence. -/
structure Relays {κ : Type} (make : κ → Table → Table) (relay : Record → Option Record) :
    Prop where
  push : ∀ x next row record, row.fields = .ok record → ∃ x',
    (relay record = none ∧ (make x next).push row = .done (make x' next)) ∨
      ∃ row' record', relay record = some record' ∧ row'.fields = .ok record' ∧
        (make x next).push row = (next.push row').map (make x')
  finish : ∀ x next, (make x next).finish.1 = next.finish.1.map (make x)
  sink : ∀ x next, (make x next).sink? = next.sink?

namespace Relays

variable {κ : Type} {make : κ → Table → Table} {relay : Record → Option Record}

theorem each (h : Relays make relay) (hrows : rows.mapM Row.fields = .ok records) (x : κ)
    (next : Table) :
    ∃ x' rows', rows'.mapM Row.fields = .ok (records.filterMap relay) ∧
      Step.each Table.push rows (make x next) =
        (Step.each Table.push rows' next).map (make x') := by
  induction rows generalizing records x next with
  | nil =>
    cases hrows
    exact ⟨x, [], rfl, rfl⟩
  | cons row rows ih =>
    obtain ⟨record, records, hrecord, hrecords, rfl⟩ := mapM_cons_eq_ok.1 hrows
    obtain ⟨x', ⟨hnone, hpush⟩ | ⟨row', record', hsome, hrecord', hpush⟩⟩ :=
      h.push x next row record hrecord
    · obtain ⟨x'', rows', hrows', heach⟩ := ih hrecords x' next
      refine ⟨x'', rows', ?_, ?_⟩
      · rw [List.filterMap_cons_none hnone, hrows']
      · rw [Step.each_cons, hpush, Step.done_andThen, heach]
    · rw [List.filterMap_cons_some hsome]
      cases hnext : (next.push row').outcome with
      | ok u =>
        obtain ⟨x'', rows', hrows', heach⟩ := ih hrecords x' (next.push row').state
        refine ⟨x'', row' :: rows', mapM_cons_eq_ok.2 ⟨_, _, hrecord', hrows', rfl⟩, ?_⟩
        rw [Step.each_cons, Step.each_cons, hpush, Step.map_andThen_of_ok hnext,
          Step.andThen_of_ok hnext, heach]
      | error e =>
        -- The rows behind are not looked at, so any rows with these records will do.
        refine ⟨x', row' :: (records.filterMap relay).map Row.ofFields,
          mapM_cons_eq_ok.2 ⟨_, _, hrecord', mapM_ofFields _, rfl⟩, ?_⟩
        rw [Step.each_cons, Step.each_cons, hpush, Step.map_andThen_of_error hnext,
          Step.andThen_of_error hnext]

/-- The table behind is drained of the records that are handed on. -/
theorem handsTo (h : Relays make relay) (x : κ) (next : Table) :
    (make x next).HandsTo next fun records ↦ .ok (records.filterMap relay) where
  ok hrows hmade := by
    cases hmade
    obtain ⟨x', rows', hrows', heach⟩ := h.each hrows x next
    refine ⟨rows', make x', hrows', h.sink x', ?_⟩
    rw [drain, drain, heach]
    cases hrun : (Step.each Table.push rows' next).outcome with
    | ok u => rw [Step.map_andThen_of_ok hrun, Step.andThen_of_ok hrun, h.finish]
    | error e => rw [Step.map_andThen_of_error hrun, Step.andThen_of_error hrun]
  error _ hmade := nomatch hmade

end Relays

/-! ### Filters -/

theorem relays_filtered (tests : List FieldTest) :
    Relays (filtered tests) (Option.guard (Record.passes tests)) where
  push dropped next row record hrecord := by
    rw [push, FieldTest.allAccept_eq hrecord]
    cases hpasses : record.passes tests with
    | true =>
      exact ⟨dropped, .inr ⟨row, record, Option.guard_eq_some_iff.2 ⟨rfl, hpasses⟩, hrecord, rfl⟩⟩
    | false =>
      exact ⟨dropped + 1, .inl ⟨Option.guard_eq_none_iff.2 (by simp [hpasses]), rfl⟩⟩
  finish dropped next := by rw [finish]
  sink _ _ := rfl

theorem handsTo_filtered (tests : List FieldTest) (dropped : Nat) (next : Table) :
    (filtered tests dropped next).HandsTo next fun records ↦
      .ok (records.filter (Record.passes tests)) := by
  have hrelayed := (relays_filtered tests).handsTo dropped next
  simp only [List.filterMap_eq_filter] at hrelayed
  exact hrelayed

/-! ### Projections -/

/-- All columns are written, so nothing is left of the row before. -/
theorem push_projection {fields : List Nat} {columns : Columns} {row : Row} {record : Record}
    (hsize : columns.size = fields.length) (hrecord : row.fields = .ok record) (next : Table) :
    (projection fields columns next).push row =
      (next.push (.ofFields (fields.map record.field))).map
        (projection fields (fields.map record.field).toArray) := by
  have hentries : (fields.zipIdx.map Prod.swap).map
      (fun entry ↦ (entry.1, record.field entry.2)) =
        (fields.map record.field).zipIdx.map Prod.swap := by
    rw [List.map_map, List.zipIdx_map, List.map_map]
    rfl
  have hfilling : Step.each (fun columns (entry : Nat × Nat) ↦
      Step.ofExcept columns (do Columns.put columns entry.1 (← row.field entry.2)))
      (fields.zipIdx.map Prod.swap) columns = .done (fields.map record.field).toArray := by
    rw [← Columns.putAll_zipIdx (hsize.trans (List.length_map _).symm), ← hentries]
    refine Step.each_of_map (fun columns entry ↦ ?_) _ _
    rw [Row.field_of_fields hrecord]
    rfl
  rw [push]
  generalize hrun : Step.each _ _ columns = run
  obtain rfl : run = .done (fields.map record.field).toArray := hrun.symm.trans hfilling
  rfl

/-- The columns of a stage that projects. -/
theorem relays_projection (fields : List Nat) :
    Relays (fun columns : {columns : Columns // columns.size = fields.length} ↦
      projection fields columns) (fun record ↦ some (fields.map record.field)) where
  push columns next row record hrecord :=
    ⟨⟨(fields.map record.field).toArray, by simp⟩,
      .inr ⟨_, _, rfl, Row.fields_ofFields _, push_projection columns.2 hrecord next⟩⟩
  finish columns next := by rw [finish]
  sink _ _ := rfl

theorem handsTo_projection (fields : List Nat) (next : Table) :
    (projection fields (.blank fields.length) next).HandsTo next fun records ↦
      .ok (records.map fun record ↦ fields.map record.field) := by
  have hsize : (Columns.blank fields.length).size = fields.length := by simp [Columns.blank]
  have hrelayed := (relays_projection fields).handsTo ⟨.blank fields.length, hsize⟩ next
  simp only [List.filterMap_eq_map'] at hrelayed
  exact hrelayed

end Table

end Rollup
