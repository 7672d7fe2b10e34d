import Rollup.Number.Standard
import Rollup.Proofs.Fields
import Rollup.Proofs.Table.NormalForm
import Rollup.Proofs.Table.Records

/-!
# The tables of a pipeline do what it means

The chain for some stages is built from the last one on, and so is its meaning
proved: the tables of a stage in front of a chain hand on what the stage means
(`Stage.handsTo_build`), and then the chain does what it means (`Stage.means_build`).
It follows for all stages of a normal form (`means_buildStages`), and so for the
pipeline that it comes from.
-/

namespace Rollup

open Outcome

variable {engine : PatternEngine} {orders : Nat → GroupOrder} {order : GroupOrder}
  {filters : List Filter} {stage : Stage} {stages : List Stage} {out : Writer} {rank : Nat}
  {next table : Table} {notices : List Notice}
  {meaning : List Record → Except Error (Option Bytes)}

/-! ## Filters -/

theorem Stage.testsOf_of_mapM {tests : List FieldTest}
    (h : (filters.mapM fun f ↦ (engine f.pattern).map (FieldTest.mk f.field)) = .ok tests) :
    testsOf engine filters = .ok tests := by
  induction filters generalizing tests with
  | nil =>
    cases h
    rfl
  | cons f filters ih =>
    obtain ⟨test, tests, htest, htests, rfl⟩ := mapM_cons_eq_ok.1 h
    obtain ⟨accepts, haccepts, rfl⟩ := map_eq_ok.1 htest
    refine mapM_cons_eq_ok.2 ⟨_, tests, ?_, ih htests, rfl⟩
    rw [haccepts]

theorem Table.withFilters_eq_ok (h : withFilters engine filters next = .ok table) :
    (filters = [] ∧ table = next) ∨
      ∃ tests, Stage.testsOf engine filters = .ok tests ∧ table = .filtered tests 0 next := by
  rw [withFilters] at h
  split at h
  · rename_i hnone
    cases h
    exact .inl ⟨List.isEmpty_iff.1 hnone, rfl⟩
  · dsimp only at h
    split at h
    · cases h
    · rename_i tests htests
      cases h
      exact .inr ⟨tests, Stage.testsOf_of_mapM htests, rfl⟩

/-- Filters let the records through that pass their tests. -/
theorem Table.handsTo_withFilters [NumberReader] (h : withFilters engine filters next = .ok table) :
    table.HandsTo next fun records ↦ Stage.testsOf engine filters >>= fun tests ↦
      .ok (records.filter (Record.passes tests)) := by
  rcases withFilters_eq_ok h with ⟨rfl, rfl⟩ | ⟨tests, htests, rfl⟩
  · rw [Stage.testsOf_nil]
    simp only [ok_bind, Record.filter_passes_nil]
    exact .refl table
  · rw [htests]
    exact handsTo_filtered tests 0 next

/-! ## Stages -/

namespace Stage

theorem ne_writer_of_buildBody {body : Body}
    (h : buildBody body order next = .ok (table, notices)) (out : Writer) :
    table ≠ .writer out := by
  rintro rfl
  rw [buildBody.eq_def] at h
  split at h
  · split at h <;> cases h
  · cases h
  · obtain ⟨_, _, -, -, -, hgrouping, -⟩ := buildBody_eq_ok h
    cases hgrouping

theorem ne_writer_of_build (h : stage.build engine order next = .ok (table, notices))
    (out : Writer) : table ≠ .writer out := by
  obtain ⟨⟨body, others⟩, hbody, h⟩ := bind_eq_ok.1 h
  obtain ⟨filtered, hfiltered, h⟩ := bind_eq_ok.1 h
  cases h
  rcases Table.withFilters_eq_ok hfiltered with ⟨-, rfl⟩ | ⟨tests, -, rfl⟩
  · exact ne_writer_of_buildBody hbody out
  · exact Table.noConfusion

variable [NumberReader]

theorem handsTo_buildBody {body : Body} (hbody : body ≠ .project []) (isLast : Bool)
    (hbuild : buildBody body order next = .ok (table, notices)) :
    table.HandsTo next (bodyMeaning order isLast body) := by
  match body with
  | .project [] => exact absurd rfl hbody
  | .project (field :: fields) =>
    cases hbuild
    exact Table.handsTo_projection (field :: fields) next
  | .aggregate components => exact Table.handsTo_grouped hbuild

theorem means_buildBody {isLast : Bool} {body : Body} (hnext : next.Means meaning)
    (hlast : ∀ out, next = .writer out → isLast = true ∧ out.sink.behaviour.NeverFails)
    (hbuild : buildBody body order next = .ok (table, notices)) :
    table.Means fun records ↦ bodyMeaning order isLast body records >>= meaning := by
  by_cases hbody : body = .project []
  · subst hbody
    rw [buildBody.eq_def] at hbuild
    dsimp only at hbuild
    split at hbuild
    · rename_i out
      cases hbuild
      obtain ⟨rfl, hsink⟩ := hlast out rfl
      intro rows records hrows
      -- What the writer means is known, for it means something for all records.
      have hwriter := hnext _ _ (Table.mapM_ofFields (records.map fun record ↦ [record.field 0]))
      rw [Table.means_writer hsink _ _ (Table.mapM_ofFields _)] at hwriter
      exact (Table.means_passthrough hsink rows records hrows).trans hwriter
    · cases hbuild
  · exact (handsTo_buildBody hbody isLast hbuild).means hnext

/-- The tables of a stage that prints columns of its own hand on what the stage means. -/
theorem handsTo_build (h : stage.isImplicit = false) (isLast : Bool)
    (hbuild : stage.build engine order next = .ok (table, notices)) :
    table.HandsTo next (stage.meaning engine order isLast) := by
  obtain ⟨⟨body, others⟩, hbody, hbuild⟩ := bind_eq_ok.1 hbuild
  obtain ⟨filtered, hfiltered, hbuild⟩ := bind_eq_ok.1 hbuild
  cases hbuild
  have hhands := (Table.handsTo_withFilters hfiltered).trans
    (handsTo_buildBody (of_decide_eq_false h) isLast hbody)
  simp only [bind_assoc] at hhands
  exact hhands

/-- The tables of an implicit stage give the records that pass its filters to one that prints
field 0. -/
theorem handsTo_passthrough (h : stage.isImplicit)
    (hbuild : stage.build engine order next = .ok (table, notices)) :
    ∃ out, next = .writer out ∧ table.HandsTo (.passthrough out) fun records ↦
      testsOf engine stage.filters >>= fun tests ↦
        .ok (records.filter (Record.passes tests)) := by
  obtain ⟨⟨body, others⟩, hbody, hbuild⟩ := bind_eq_ok.1 hbuild
  obtain ⟨filtered, hfiltered, hbuild⟩ := bind_eq_ok.1 hbuild
  cases hbuild
  rw [of_decide_eq_true h, buildBody.eq_def] at hbody
  dsimp only at hbody
  split at hbody
  · rename_i out
    cases hbody
    exact ⟨out, rfl, Table.handsTo_withFilters hfiltered⟩
  · cases hbody

/-- What an implicit stage prints, if it is the last one and the run succeeds, is what the
stage means. -/
theorem output_of_implicit (h : stage.isImplicit)
    (hhands : table.HandsTo (.passthrough out) fun records ↦
      testsOf engine stage.filters >>= fun tests ↦ .ok (records.filter (Record.passes tests)))
    {rows : List Row} {records : List Record} (hrows : rows.mapM Row.fields = .ok records)
    (hok : (table.drain rows).outcome = .ok ()) :
    ∃ made, stage.meaning engine order true records = .ok made ∧
      Table.output (table.drain rows) = .ok (some (out.written ++ Record.printed made)) := by
  rw [Stage.meaning, Stage.body_of_isImplicit h]
  cases htests : testsOf engine stage.filters with
  | error e =>
    have hfails := hhands.error hrows (by rw [htests]; rfl)
    cases hfails.symm.trans hok
  | ok tests =>
    obtain ⟨rows', f, hrows', hsink, hdrain⟩ := hhands.ok hrows (by rw [htests]; rfl)
    rw [hdrain] at hok ⊢
    have houtput := Table.printsLines_passthrough.output_of_ok hrows' hok
    refine ⟨_, rfl, (Table.output_map hsink _).trans (houtput.trans ?_)⟩
    rw [Record.printed, if_pos rfl, List.flatMap_map]
    rfl

/-- What the tables of a stage make of records goes to the tables behind them.  The
writer has to be the one behind the last stage. -/
theorem means_build {isLast : Bool} (hnext : next.Means meaning)
    (hlast : ∀ out, next = .writer out → isLast = true ∧ out.sink.behaviour.NeverFails)
    (hbuild : stage.build engine order next = .ok (table, notices)) :
    table.Means fun records ↦ stage.meaning engine order isLast records >>= meaning := by
  obtain ⟨⟨body, others⟩, hbody, hbuild⟩ := bind_eq_ok.1 hbuild
  obtain ⟨filtered, hfiltered, hbuild⟩ := bind_eq_ok.1 hbuild
  cases hbuild
  have hmeans := (Table.handsTo_withFilters hfiltered).means (means_buildBody hnext hlast hbody)
  simp only [bind_assoc] at hmeans
  simp only [Stage.meaning, bind_assoc]
  exact hmeans

end Stage

namespace Pipeline

/-- Of the tables that are built only the last one can be a writer. -/
theorem ne_writer_of_buildStages {last : Table}
    (h : buildStages engine orders last rank (stage :: stages) = .ok (table, notices))
    (out : Writer) : table ≠ .writer out := by
  obtain ⟨⟨next, behind⟩, -, h⟩ := bind_eq_ok.1 h
  obtain ⟨⟨built, others⟩, hbuilt, h⟩ := bind_eq_ok.1 h
  cases h
  exact Stage.ne_writer_of_build hbuilt out

section

variable [NumberReader]

/-- The tables of stages that print columns of their own hand on what the stages mean. -/
theorem handsTo_buildStages {last : Table} (hexplicit : ∀ s ∈ stages, s.isImplicit = false)
    (h : buildStages engine orders last rank stages = .ok (table, notices)) :
    table.HandsTo last (meaningFrom engine orders rank stages) := by
  induction stages generalizing rank table notices with
  | nil =>
    cases h
    exact .refl last
  | cons stage rest ih =>
    rw [List.forall_mem_cons] at hexplicit
    obtain ⟨⟨next, behind⟩, hnext, h⟩ := bind_eq_ok.1 h
    obtain ⟨⟨built, others⟩, hbuilt, h⟩ := bind_eq_ok.1 h
    cases h
    exact (Stage.handsTo_build hexplicit.1 rest.isEmpty hbuilt).trans (ih hexplicit.2 hnext)

/-- The tables of some stages write what the stages mean. -/
theorem means_buildStages (hsink : out.sink.behaviour.NeverFails)
    (h : buildStages engine orders (.writer out) rank stages = .ok (table, notices)) :
    table.Means fun records ↦ meaningFrom engine orders rank stages records >>= fun made ↦
      .ok (some (out.written ++ Record.printed made)) := by
  induction stages generalizing rank table notices with
  | nil =>
    cases h
    exact Table.means_writer hsink
  | cons stage rest ih =>
    obtain ⟨⟨next, behind⟩, hnext, h⟩ := bind_eq_ok.1 h
    obtain ⟨⟨built, others⟩, hbuilt, h⟩ := bind_eq_ok.1 h
    cases h
    have hlast (out' : Writer) (hwriter : next = .writer out') :
        rest.isEmpty = true ∧ out'.sink.behaviour.NeverFails := by
      cases rest with
      | nil =>
        cases hnext
        cases hwriter
        exact ⟨rfl, hsink⟩
      | cons => exact absurd hwriter (ne_writer_of_buildStages hnext out')
    have hmeans := Stage.means_build (ih hnext) hlast hbuilt
    simp only [meaningFrom_cons, bind_assoc]
    exact hmeans

/-- If the tables of some stages succeed, whatever the sink is, then the stages mean something,
and this has been written. -/
theorem output_of_buildStages
    (h : buildStages engine orders (.writer out) rank stages = .ok (table, notices))
    {rows : List Row} {records : List Record} (hrows : rows.mapM Row.fields = .ok records)
    (hok : (table.drain rows).outcome = .ok ()) :
    ∃ made, meaningFrom engine orders rank stages records = .ok made ∧
      Table.output (table.drain rows) = .ok (some (out.written ++ Record.printed made)) := by
  induction stages generalizing rank table notices rows records with
  | nil =>
    cases h
    exact ⟨records, rfl, Table.printsLines_writer.output_of_ok hrows hok⟩
  | cons stage rest ih =>
    obtain ⟨⟨next, behind⟩, hnext, h⟩ := bind_eq_ok.1 h
    obtain ⟨⟨built, others⟩, hbuilt, h⟩ := bind_eq_ok.1 h
    cases h
    rw [meaningFrom_cons]
    cases himplicit : stage.isImplicit with
    | false =>
      have hhands := Stage.handsTo_build himplicit rest.isEmpty hbuilt
      cases hmade : stage.meaning engine (orders rank) rest.isEmpty records with
      | error e => cases (hhands.error hrows hmade).symm.trans hok
      | ok lines =>
        obtain ⟨rows', f, hrows', hsink, hdrain⟩ := hhands.ok hrows hmade
        rw [hdrain] at hok ⊢
        obtain ⟨made, hmeaning, houtput⟩ := ih hnext hrows' hok
        exact ⟨made, hmeaning, (Table.output_map hsink _).trans houtput⟩
    | true =>
      obtain ⟨out', rfl, hhands⟩ := Stage.handsTo_passthrough himplicit hbuilt
      cases rest with
      | cons => exact absurd rfl (ne_writer_of_buildStages hnext out')
      | nil =>
        cases hnext
        obtain ⟨made, hmade, houtput⟩ := Stage.output_of_implicit himplicit hhands hrows hok
        exact ⟨made, bind_eq_ok.2 ⟨made, hmade, rfl⟩, houtput⟩

/-- The tables that are built for a pipeline write, on a sink that never fails, what its
normal form means stage by stage. -/
theorem output_eq_normalize {p : Pipeline} {behaviour : SinkBehaviour} {threshold : Nat}
    (hbuild : p.build engine orders (.new behaviour threshold) = .ok (table, notices))
    (hsink : behaviour.NeverFails) (lines : List Bytes) :
    Table.output (table.drain (lines.map Row.ofLine)) =
      (p.normalize.meaning engine orders lines).map some := by
  obtain ⟨⟨built, others⟩, hbuilt, hbuild⟩ := bind_eq_ok.1 hbuild
  cases hbuild
  have hread : ∃ records, (lines.mapM fun line ↦ (Row.ofLine line).fields) = .ok records :=
    exists_mapM fun line _ ↦ Row.fields_ofLine line
  obtain ⟨records, hrecords⟩ := hread
  have hrows : (lines.map Row.ofLine).mapM Row.fields = .ok records := by
    rw [List.mapM_map]
    exact hrecords
  have hnew : (Writer.new behaviour threshold).sink.behaviour.NeverFails := hsink
  rw [means_buildStages hnew hbuilt _ _ hrows]
  dsimp only
  rw [meaning, hrecords, ok_bind]
  cases meaningFrom engine orders 0 p.normalize.stages records with
  | error e => rfl
  | ok made => rfl

theorem meaning_normalize {text : String} {p : Pipeline} (h : Spec.parse text = .ok p)
    (lines : List Bytes) :
    p.normalize.meaning engine orders lines = p.meaning engine orders lines := by
  rw [meaning, meaning]
  simp only [meaningFrom_normalize h]

/-- The tables that are built for a spec write, on a sink that never fails, what the
pipeline of the spec means stage by stage, or end with its error, for all lines of
input and in whatever order groups are rendered. -/
theorem build_eq_meaning {text : String} {p : Pipeline} {behaviour : SinkBehaviour}
    {threshold : Nat} (hparse : Spec.parse text = .ok p)
    (hbuild : p.build engine orders (.new behaviour threshold) = .ok (table, notices))
    (hsink : behaviour.NeverFails) (lines : List Bytes) :
    Table.output (table.drain (lines.map Row.ofLine)) =
      (p.meaning engine orders lines).map some := by
  rw [output_eq_normalize hbuild hsink, meaning_normalize hparse]

end

open Standard

/-- Filters in front of groups, which go to the stage of these, and behind them. -/
theorem build_eq_meaning_around :
    let engine : PatternEngine :=
      fun pattern ↦ .ok fun value ↦ pattern.toList.all fun c ↦ value.contains c.toNat.toUInt8
    let p : Pipeline := ⟨[⟨[⟨0, "a"⟩], .project []⟩, ⟨[], .aggregate [.key 0, .count]⟩,
      ⟨[⟨1, "2"⟩], .project []⟩]⟩
    let lines : List Bytes := [[97, 32, 49], [98, 32, 49], [97, 32, 50], [99, 97]]
    Spec.parse "f~a => k0 c => f1~2" = .ok p ∧ ∃ table notices,
      p.build engine (fun _ ↦ .sorted) (.new .reliable 32768) = .ok (table, notices) ∧
        Table.output (table.drain (lines.map Row.ofLine)) = .ok (some [97, 10]) := by
  intro engine p lines
  have hparse : Spec.parse "f~a => k0 c => f1~2" = .ok p := by decide +kernel
  have hbuild : ∃ table notices, p.build engine (fun _ ↦ .sorted) (.new .reliable 32768) =
      .ok (table, notices) := ⟨_, _, rfl⟩
  have hmeaning : p.meaning engine (fun _ ↦ .sorted) lines = .ok [97, 10] := by decide +kernel
  obtain ⟨table, notices, htable⟩ := hbuild
  refine ⟨hparse, table, notices, htable, ?_⟩
  rw [build_eq_meaning hparse htable SinkBehaviour.neverFails_reliable, hmeaning]
  rfl

end Pipeline

end Rollup
