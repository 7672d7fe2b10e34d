import Rollup.Number.Standard
import Rollup.Proofs.Output.Writer
import Rollup.Proofs.Table.Build
import Rollup.Proofs.Table.Secure
import Rollup.Processor

/-!
# No access out of range

A chain of tables is secure if its stages of groups are, and its projections have their
columns (`Table.Secure`).  The tables that are built for a pipeline are (`secure_build`), and
they stay so, whatever rows they are given (`secure_push`, `secure_finish`).  So nothing a
processor does is out of range, as long as no stage has been given 2³² rows
(`serveAll_inRange`).

How many rows a stage has been given never goes down (`Table.Grew`), so it is enough to look
at the end of a run.
-/

namespace Rollup

open Outcome Rollup.Bundle

open Grouping (aggregatesOf columnsOf)

/-! ## Writers -/

/-- All that can go wrong with a sink is its own business. -/
theorem Sink.exists_fault_of_writeFrom {buffer : Array UInt8} {position : Nat} {s : Sink}
    {e : Error} (h : (writeFrom buffer position s).outcome = .error e) :
    ∃ fault, e = .io fault := by
  fun_induction writeFrom buffer position s with
  | case1 position s hlt offered fault => exact ⟨fault, (Except.error.inj h).symm⟩
  | case2 => exact ⟨_, (Except.error.inj h).symm⟩
  | case3 position s hlt offered answer hanswer taken s' hpos ih => exact ih h
  | case4 => cases h

theorem Sink.exists_fault_of_flush {s : Sink} {e : Error} (h : s.flush.outcome = .error e) :
    ∃ fault, e = .io fault := by
  rw [flush] at h
  split at h <;> cases h
  exact ⟨_, rfl⟩

theorem Writer.exists_fault_of_flush {w : Writer} {e : Error} (h : w.flush.outcome = .error e) :
    ∃ fault, e = .io fault := by
  rw [flush] at h
  split at h
  · cases h
  · rename_i e' he'
    cases h
    cases hwrite : (w.sink.writeAll w.buffer).outcome with
    | ok u =>
      rw [Step.andThen_of_ok hwrite] at he'
      exact Sink.exists_fault_of_flush he'
    | error e'' =>
      rw [Step.andThen_of_error hwrite] at he'
      exact Sink.exists_fault_of_writeFrom he'

theorem Writer.ordinary_flush {full : Prop} (w : Writer) : Ordinary full w.flush.outcome := by
  intro e h
  obtain ⟨fault, rfl⟩ := exists_fault_of_flush h
  exact .inl trivial

theorem Writer.ordinary_writeLine {full : Prop} (w : Writer) (line : Bytes) :
    Ordinary full (w.writeLine line).outcome := by
  rw [writeLine]
  dsimp only
  split
  · exact ordinary_flush _
  · exact .ok _

/-! ## Chains -/

namespace Table

/-- All that a chain of tables relies on. -/
def Secure : Table → Prop
  | .writer _ | .passthrough _ | .recorder _ => True
  | .filtered _ _ inner => inner.Secure
  | .projection fields columns next => columns.size = fields.length ∧ next.Secure
  | .grouped stage columns next => stage.Secure columns.size ∧ next.Secure

/-- The stages of groups, from the first to the last. -/
def groupStages : Table → List GroupStage
  | .writer _ | .passthrough _ | .recorder _ => []
  | .filtered _ _ inner => inner.groupStages
  | .projection _ _ next => next.groupStages
  | .grouped stage _ next => stage :: next.groupStages

/-- How many rows each stage of groups has been given. -/
def received (table : Table) : List Nat := table.groupStages.map GroupStage.rows

/-- No stage of groups has been given 2³² rows. -/
def Bounded (table : Table) : Prop := ∀ n ∈ table.received, n < 1 <<< 32

variable {table next : Table} {row : Row} {stage : GroupStage} {columns : Columns}

/-! ### A row -/

section

variable [NumberReader]

theorem secure_push (h : table.Secure) (hrow : row.Readable) : (table.push row).state.Secure := by
  induction table generalizing row with
  | writer out =>
    simp only [push]
    split <;> trivial
  | passthrough out =>
    simp only [push]
    split <;> trivial
  | recorder arrivals =>
    simp only [push]
    split <;> trivial
  | filtered tests dropped inner ih =>
    simp only [push]
    split
    · exact h
    · exact ih h hrow
    · exact h
  | projection fields columns next ih =>
    obtain ⟨record, hrecord⟩ := hrow
    rw [push_projection h.1 hrecord]
    exact ⟨by simp, ih h.2 (Row.readable_ofFields _)⟩
  | grouped stage columns next ih => exact ⟨h.1.after row, h.2⟩

/-- A row is refused for an ordinary reason, or because some stage has been given 2³² rows. -/
theorem ordinary_push (h : table.Secure) (hrow : row.Readable) :
    Ordinary (¬ (table.push row).state.Bounded) (table.push row).outcome := by
  induction table generalizing row with
  | writer out =>
    obtain ⟨record, hrecord⟩ := hrow
    simp only [push, hrecord]
    exact Writer.ordinary_writeLine out _
  | passthrough out =>
    obtain ⟨value, hvalue⟩ := hrow.exists_field 0
    simp only [push, hvalue]
    exact Writer.ordinary_writeLine out _
  | recorder arrivals =>
    obtain ⟨record, hrecord⟩ := hrow
    simp only [push, hrecord]
    exact .ok _
  | filtered tests dropped inner ih =>
    obtain ⟨accepted, haccepted⟩ := hrow.exists_allAccept tests
    simp only [push, haccepted]
    cases accepted with
    | true => exact ih h hrow
    | false => exact .ok _
  | projection fields columns next ih =>
    obtain ⟨record, hrecord⟩ := hrow
    rw [push_projection h.1 hrecord]
    exact ih h.2 (Row.readable_ofFields _)
  | grouped stage columns next ih =>
    exact (h.1.ordinary_push hrow).mono fun hfull hbounded ↦
      hfull (hbounded _ List.mem_cons_self)

/-! ### Finishing -/

/-- The row of a group is always handed on. -/
theorem exists_emitGroup {width : Nat} (h : stage.Secure width) (hsize : columns.size = width)
    {entry : Bytes × Buffer} (hentry : entry ∈ stage.grouping.ordered stage.order)
    (next : Table) :
    ∃ columns' : Columns, columns'.size = width ∧
      stage.grouping.fill stage.bundle columns entry = .done columns' ∧
      emitGroup stage (columns, next) entry =
        (next.push (.ofFields columns'.toList)).map fun next ↦ (columns', next) := by
  obtain ⟨columns', hfill, hsize'⟩ := h.exists_fill (Grouping.mem_ordered hentry) hsize
  refine ⟨columns', hsize', hfill, ?_⟩
  rw [emitGroup, hfill]
  rfl

/-- While a stage renders its groups, it has all its columns, and what is behind it stays
secure. -/
theorem secure_emitGroup (h : stage.Secure columns.size) :
    ∀ entry ∈ stage.grouping.ordered stage.order, ∀ state : Columns × Table,
      state.1.size = columns.size ∧ state.2.Secure →
        (emitGroup stage state entry).state.1.size = columns.size ∧
          (emitGroup stage state entry).state.2.Secure := by
  rintro entry hentry ⟨before, next⟩ ⟨hsize, hnext⟩
  obtain ⟨after, hafter, -, hemit⟩ := exists_emitGroup h hsize hentry next
  rw [hemit]
  exact ⟨hafter, secure_push hnext (Row.readable_ofFields _)⟩

theorem secure_emitGroups (h : stage.Secure columns.size) (hnext : next.Secure) :
    (emitGroups stage columns next).state.1.size = columns.size ∧
      (emitGroups stage columns next).state.2.Secure := by
  rw [emitGroups]
  split
  · exact ⟨rfl, hnext⟩
  · exact Step.each_keeps (p := fun state : Columns × Table ↦
      state.1.size = columns.size ∧ state.2.Secure) (secure_emitGroup h) ⟨rfl, hnext⟩

/-- Rendering ends with an ordinary error at most, unless there is no data. -/
theorem ordinary_emitGroups (h : stage.Secure columns.size) (hnext : next.Secure)
    (hdata : ¬ (stage.grouping.keys = [] ∧ stage.grouping.size = 0)) :
    Ordinary (¬ (emitGroups stage columns next).state.2.Bounded)
      (emitGroups stage columns next).outcome := by
  rw [emitGroups, if_neg (by simpa using hdata)]
  refine Step.each_ordinary (fun state : Columns × Table ↦ state.2.Bounded)
    (secure_emitGroup h) ?_ ⟨rfl, hnext⟩
  rintro entry hentry ⟨before, next⟩ ⟨hsize, hnext⟩
  obtain ⟨after, -, -, hemit⟩ := exists_emitGroup h hsize hentry next
  rw [hemit]
  exact ordinary_push hnext (Row.readable_ofFields _)

/-- Without keys and groups there is no data. -/
theorem emitGroups_of_noData (h : stage.grouping.keys = [] ∧ stage.grouping.size = 0)
    (columns : Columns) (next : Table) :
    emitGroups stage columns next = .failed (columns, next) .noData := by
  rw [emitGroups, if_pos (by simpa using h)]

theorem secure_finish (h : table.Secure) : table.finish.1.state.Secure := by
  induction table using finish.induct with
  | case1 out => rw [finish]; trivial
  | case2 out => rw [finish]; trivial
  | case3 arrivals => rw [finish]; trivial
  | case4 tests dropped inner ih =>
    rw [finish]
    exact ih h
  | case5 fields columns next ih =>
    rw [finish]
    exact ⟨h.1, ih h.2⟩
  | case6 stage columns next emitting e hemitting =>
    obtain ⟨hsize, hnext⟩ := secure_emitGroups h.1 h.2
    rw [finish_grouped, hemitting]
    exact ⟨hsize.symm ▸ h.1, hnext⟩
  | case7 stage columns next emitting u hemitting hdepth ih =>
    obtain ⟨hsize, hnext⟩ := secure_emitGroups h.1 h.2
    rw [finish_grouped, hemitting]
    exact ⟨hsize.symm ▸ h.1.clear, ih hnext⟩

/-- A run ends with an ordinary error at most, unless there is no data. -/
theorem ordinary_finish (h : table.Secure) (hdata : table.finish.1.outcome ≠ .error .noData) :
    Ordinary (¬ table.finish.1.state.Bounded) table.finish.1.outcome := by
  induction table using finish.induct with
  | case1 out =>
    rw [finish]
    exact Writer.ordinary_flush out
  | case2 out =>
    rw [finish]
    exact Writer.ordinary_flush out
  | case3 arrivals =>
    rw [finish]
    exact .ok _
  | case4 tests dropped inner ih =>
    rw [finish] at hdata ⊢
    exact ih h hdata
  | case5 fields columns next ih =>
    rw [finish] at hdata ⊢
    exact ih h.2 hdata
  | case6 stage columns next emitting e hemitting =>
    replace hemitting : (emitGroups stage columns next).outcome = .error e := hemitting
    rw [finish_grouped, hemitting] at hdata ⊢
    have hemit := ordinary_emitGroups h.1 h.2 fun hnone ↦ by
      rw [emitGroups_of_noData hnone] at hemitting
      cases hemitting
      exact hdata rfl
    rw [hemitting] at hemit
    rintro _ ⟨⟩
    obtain haccess | ⟨hfull, heq⟩ := hemit e rfl
    · exact .inl haccess
    · exact .inr ⟨fun hbounded ↦ hfull fun n hn ↦ hbounded n (List.mem_cons_of_mem _ hn), heq⟩
  | case7 stage columns next emitting u hemitting hdepth ih =>
    rw [finish_grouped, hemitting] at hdata ⊢
    exact (ih (secure_emitGroups h.1 h.2).2 hdata).mono fun hfull hbounded ↦
      hfull fun n hn ↦ hbounded n (List.mem_cons_of_mem _ hn)

theorem inRange_finish (h : table.Secure) (hbounded : table.finish.1.state.Bounded) :
    InRange table.finish.1.outcome := by
  by_cases hdata : table.finish.1.outcome = .error .noData
  · rw [hdata]
    rintro access ⟨⟩
  · exact (ordinary_finish h hdata).inRange (not_not.2 hbounded)

end

/-! ### Rows so far -/

/-- Every stage of groups has been given as many rows, or more. -/
def Grew (before after : Table) : Prop := List.Forall₂ (· ≤ ·) before.received after.received

theorem Grew.refl (table : Table) : Grew table table := List.forall₂_same.2 fun n _ ↦ Nat.le_refl n

theorem Grew.trans {before mid after : Table} (h : Grew before mid) (h' : Grew mid after) :
    Grew before after := by
  rw [Grew] at h h' ⊢
  generalize before.received = ls at h ⊢
  generalize mid.received = ms at h h'
  generalize after.received = ns at h' ⊢
  induction h generalizing ns with
  | nil => exact h'
  | cons hle _ ih =>
    cases h' with
    | cons hle' hrest' => exact .cons (Nat.le_trans hle hle') (ih _ hrest')

theorem Grew.bounded {before after : Table} (h : Grew before after) (hafter : after.Bounded) :
    before.Bounded := by
  rw [Bounded] at hafter ⊢
  rw [Grew] at h
  generalize before.received = ms at h ⊢
  generalize after.received = ns at h hafter
  induction h with
  | nil => exact List.forall_mem_nil _
  | cons hle _ ih =>
    rw [List.forall_mem_cons] at hafter ⊢
    exact ⟨Nat.lt_of_le_of_lt hle hafter.1, ih hafter.2⟩

variable [NumberReader]

theorem grew_push (table : Table) (row : Row) : Grew table (table.push row).state := by
  induction table generalizing row with
  | writer out =>
    simp only [push]
    split <;> exact .nil
  | passthrough out =>
    simp only [push]
    split <;> exact .nil
  | recorder arrivals =>
    simp only [push]
    split <;> exact .nil
  | filtered tests dropped inner ih =>
    simp only [push]
    split
    · exact .refl inner
    · exact ih row
    · exact .refl inner
  | projection fields columns next ih =>
    simp only [push]
    split
    · exact .refl next
    · exact ih _
  | grouped stage columns next ih => exact .cons (Nat.le_succ _) (Grew.refl next)

theorem grew_emitGroups (stage : GroupStage) (columns : Columns) (next : Table) :
    Grew next (emitGroups stage columns next).state.2 := by
  rw [emitGroups]
  split
  · exact .refl next
  · refine Step.each_invariant (p := fun state : Columns × Table ↦ Grew next state.2)
      (fun state entry h ↦ ?_) _ (.refl next)
    rw [emitGroup]
    split
    · exact h
    · exact h.trans (grew_push _ _)

theorem grew_finish (table : Table) : Grew table table.finish.1.state := by
  induction table using finish.induct with
  | case1 out => rw [finish]; exact .nil
  | case2 out => rw [finish]; exact .nil
  | case3 arrivals => rw [finish]; exact .nil
  | case4 tests dropped inner ih => rw [finish]; exact ih
  | case5 fields columns next ih => rw [finish]; exact ih
  | case6 stage columns next emitting e hemitting =>
    rw [finish_grouped, hemitting]
    exact .cons (Nat.le_refl _) (grew_emitGroups stage columns next)
  | case7 stage columns next emitting u hemitting hdepth ih =>
    rw [finish_grouped, hemitting]
    exact .cons (Nat.le_refl _) ((grew_emitGroups stage columns next).trans ih)

end Table

/-! ## Tables that were built -/

open Table (Secure)

variable {engine : PatternEngine} {order : GroupOrder} {orders : Nat → GroupOrder} {stage : Stage}
  {stages : List Stage} {next table : Table} {notices : List Notice}

theorem GroupStage.secure_new {bundle : Bundle} {keys : List Key} {width : Nat}
    (hfresh : bundle.Fresh) (hroom : bundle.HasRoom)
    (hlt : ∀ column ∈ columnsOf keys (aggregatesOf bundle.slots), column < width)
    (order : GroupOrder) : GroupStage.Secure width ⟨.new keys, bundle, 0, order⟩ where
  placed := hfresh.placed
  capacity_eq hk := by simp [Grouping.new] at hk
  hasRoom := hroom
  coded k hk := by simp [Grouping.new] at hk
  counts slot hslot :=
    ⟨_, hfresh.sound.knows slot hslot, fun _ ↦ Nat.le_refl 0⟩
  column_lt := hlt

/-- The tables that a stage without its filters can be built as, in front of `next`. -/
inductive Body.BuiltAs (order : GroupOrder) (next : Table) : Body → Table → Prop
  | passthrough {out : Writer} (h : next = .writer out) :
    BuiltAs order next (.project []) (.passthrough out)
  | projection {fields : List Nat} :
    BuiltAs order next (.project fields) (.projection fields (.blank fields.length) next)
  | grouping {components : List Component} {a : Assignment} {bundle : Bundle}
    (hfrom : Assignment.from 0 components = .ok a) (hfresh : bundle.Fresh) (hroom : bundle.HasRoom)
    (hsame : SameLines bundle a.aggregates) :
    BuiltAs order next (.aggregate components) (.grouping a.keys bundle order a.width next)

namespace Stage

theorem builtAs_of_buildBody {body : Body} (h : buildBody body order next = .ok (table, notices)) :
    body.BuiltAs order next table := by
  rw [buildBody.eq_def] at h
  split at h
  · split at h <;> cases h
    exact .passthrough rfl
  · cases h
    exact .projection
  · obtain ⟨a, ha, h⟩ := bind_eq_ok.1 h
    split at h
    · cases h
    · obtain ⟨⟨built, others⟩, hbuilt, h⟩ := bind_eq_ok.1 h
      cases h
      obtain ⟨bundle, hfresh, hsame, rfl, -⟩ := Table.aggregating_eq_ok hbuilt
      exact .grouping ha hfresh (Table.hasRoom_of_aggregating hbuilt) hsame

/-- The table of a stage, which may stand behind tests. -/
theorem builtAs_of_build (h : stage.build engine order next = .ok (table, notices)) :
    ∃ body, stage.body.BuiltAs order next body ∧
      (table = body ∨ ∃ tests, table = .filtered tests 0 body) := by
  obtain ⟨⟨body, others⟩, hbody, h⟩ := bind_eq_ok.1 h
  obtain ⟨filtered, hfiltered, h⟩ := bind_eq_ok.1 h
  cases h
  refine ⟨body, builtAs_of_buildBody hbody, ?_⟩
  exact (Table.withFilters_eq_ok hfiltered).imp (fun ⟨_, heq⟩ ↦ heq) fun ⟨tests, _, heq⟩ ↦
    ⟨tests, heq⟩

end Stage

theorem Body.BuiltAs.secure {body : Body} (h : body.BuiltAs order next table)
    (hnext : next.Secure) : table.Secure := by
  cases h with
  | passthrough => trivial
  | projection => exact ⟨by simp [Columns.blank], hnext⟩
  | grouping hfrom hfresh hroom hsame =>
    refine ⟨GroupStage.secure_new hfresh hroom ?_ order, hnext⟩
    rw [Columns.blank, Array.size_replicate]
    exact (hsame.fits (Assignment.fits_of_from hfrom)).lt_width

namespace Pipeline

/-- What is true of the last table, and of every table that is built in front of one of which
it is true, is true of the tables of a pipeline. -/
theorem of_buildStages {p : List Stage → Table → Prop} {last : Table} (hlast : p [] last)
    (hbody : ∀ {stage stages order next table}, p stages next →
      stage.body.BuiltAs order next table → p (stage :: stages) table)
    (htests : ∀ {stages tests inner}, p stages inner → p stages (.filtered tests 0 inner))
    {rank : Nat} (h : buildStages engine orders last rank stages = .ok (table, notices)) :
    p stages table := by
  induction stages generalizing rank table notices with
  | nil =>
    cases h
    exact hlast
  | cons s rest ih =>
    obtain ⟨⟨next, behind⟩, hnext, h⟩ := bind_eq_ok.1 h
    obtain ⟨⟨built, others⟩, hbuilt, h⟩ := bind_eq_ok.1 h
    cases h
    obtain ⟨body, hbuiltAs, rfl | ⟨tests, rfl⟩⟩ := Stage.builtAs_of_build hbuilt
    · exact hbody (ih hnext) hbuiltAs
    · exact htests (hbody (ih hnext) hbuiltAs)

theorem of_build {p : List Stage → Table → Prop} {pipeline : Pipeline} {out : Writer}
    (hlast : p [] (.writer out))
    (hbody : ∀ {stage stages order next table}, p stages next →
      stage.body.BuiltAs order next table → p (stage :: stages) table)
    (htests : ∀ {stages tests inner}, p stages inner → p stages (.filtered tests 0 inner))
    (h : pipeline.build engine orders out = .ok (table, notices)) :
    p pipeline.normalize.stages table := by
  obtain ⟨⟨built, others⟩, hbuilt, h⟩ := bind_eq_ok.1 h
  cases h
  exact of_buildStages hlast hbody htests hbuilt

theorem secure_build {pipeline : Pipeline} {out : Writer}
    (h : pipeline.build engine orders out = .ok (table, notices)) : table.Secure :=
  of_build (p := fun _ table ↦ table.Secure) (show (Table.writer out).Secure from trivial)
    (fun hnext hbuiltAs ↦ hbuiltAs.secure hnext) id h

end Pipeline

/-! ## Processors -/

namespace Processor

/-- What a processor can be asked to do before it finishes. -/
inductive Call where
  | line (line : Bytes)
  | data (data : Bytes)
  | input (answers : List ReadAnswer)
  deriving DecidableEq, Repr

/-- Does what the processor is asked to. -/
def serve [NumberReader] (p : Processor) : Call → Step Error Processor
  | .line line => p.pushLine line
  | .data data => p.process data
  | .input answers => p.read answers

/-- Does one thing after the other, whether or not those before have succeeded. -/
def serveAll [NumberReader] (p : Processor) : List Call → Processor × List (Except Error Unit)
  | [] => (p, [])
  | call :: rest =>
    let step := p.serve call
    let served := step.state.serveAll rest
    (served.1, step.outcome :: served.2)

/-- The step of a processor keeps its tables secure, and is in range. -/
structure Careful (p : Processor) (step : Step Error Processor) : Prop where
  secure : p.table.Secure → step.state.table.Secure
  grew : Table.Grew p.table step.state.table
  inRange : p.table.Secure → step.state.table.Bounded → InRange step.outcome

variable {p : Processor} {step : Step Error Processor}

theorem Careful.andThen {next : Processor → Step Error Processor} (h : p.Careful step)
    (hnext : ∀ q : Processor, q.Careful (next q)) : p.Careful (step.andThen next) := by
  cases hstep : step.outcome with
  | ok u =>
    rw [Step.andThen_of_ok hstep]
    obtain ⟨hsecure, hgrew, hinRange⟩ := hnext step.state
    exact ⟨fun hp ↦ hsecure (h.secure hp), h.grew.trans hgrew, fun hp ↦ hinRange (h.secure hp)⟩
  | error e => rwa [Step.andThen_of_error hstep]

theorem careful_done (p : Processor) : p.Careful (.done p) :=
  ⟨id, .refl _, fun _ _ access h ↦ by cases h⟩

section

variable [NumberReader]

theorem careful_pushLine (p : Processor) (line : Bytes) : p.Careful (p.pushLine line) where
  secure h := Table.secure_push h (Row.readable_ofLine line)
  grew := Table.grew_push _ _
  inRange h hbounded :=
    (Table.ordinary_push h (Row.readable_ofLine line)).inRange (not_not.2 hbounded)

theorem careful_pushLines (p : Processor) (lines : List Bytes) : p.Careful (p.pushLines lines) := by
  rw [pushLines]
  induction lines generalizing p with
  | nil => exact careful_done p
  | cons line lines ih => exact (careful_pushLine p line).andThen ih

theorem careful_readFrom (pending : Bytes) (answers : List ReadAnswer) (p : Processor) :
    p.Careful (readFrom pending answers p) := by
  induction answers generalizing pending p with
  | nil => exact careful_pushLines p _
  | cons answer answers ih =>
    cases answer with
    | bytes data =>
      rw [readFrom]
      split
      · exact careful_pushLines p _
      · exact (careful_pushLines p _).andThen fun q ↦ ih _ q
    | interrupted => exact ih pending p
    | failed fault =>
      refine ⟨id, .refl _, fun _ _ ↦ ?_⟩
      rintro access ⟨⟩

theorem careful_serve (p : Processor) (call : Call) : p.Careful (p.serve call) := by
  cases call with
  | line line => exact careful_pushLine p line
  | data data => exact careful_pushLines p _
  | input answers => exact careful_readFrom [] answers p

theorem careful_serveAll (p : Processor) (calls : List Call) :
    (p.table.Secure → (p.serveAll calls).1.table.Secure) ∧
      Table.Grew p.table (p.serveAll calls).1.table ∧
      (p.table.Secure → (p.serveAll calls).1.table.Bounded →
        ∀ outcome ∈ (p.serveAll calls).2, InRange outcome) := by
  induction calls generalizing p with
  | nil => exact ⟨id, .refl _, fun _ _ ↦ List.forall_mem_nil _⟩
  | cons call calls ih =>
    obtain ⟨hsecure, hgrew, hinRange⟩ := careful_serve p call
    obtain ⟨hsecure', hgrew', hinRange'⟩ := ih (p.serve call).state
    refine ⟨fun hp ↦ hsecure' (hsecure hp), hgrew.trans hgrew', fun hp hbounded ↦ ?_⟩
    exact List.forall_mem_cons.2
      ⟨hinRange hp (hgrew'.bounded hbounded), hinRange' (hsecure hp) hbounded⟩

theorem careful_finish (p : Processor) : p.Careful p.finish.1 where
  secure := Table.secure_finish
  grew := Table.grew_finish p.table
  inRange := Table.inRange_finish

/-- Whatever the processor of a pipeline is asked to do, and whatever became of it so far,
all that its accesses rely on is there; and nothing is out of range, the end of the run
included, as long as no stage has been given 2³² rows. -/
theorem serveAll_inRange {pipeline : Pipeline} {behaviour : SinkBehaviour} {threshold : Nat}
    (h : new engine orders pipeline behaviour threshold = .ok (p, notices)) (calls : List Call) :
    let served := p.serveAll calls
    let finished := served.1.finish.1
    served.1.table.Secure ∧
      (finished.state.table.Bounded →
        ∀ outcome ∈ served.2 ++ [finished.outcome], InRange outcome) := by
  intro served finished
  obtain ⟨⟨table, others⟩, hbuild, heq⟩ := map_eq_ok.1 h
  cases heq
  have hsecure : table.Secure := Pipeline.secure_build hbuild
  obtain ⟨hserved, -, hinRange⟩ := careful_serveAll ⟨table, 0⟩ calls
  obtain ⟨-, hgrew, hfinished⟩ := careful_finish served.1
  refine ⟨hserved hsecure, fun hbounded ↦ ?_⟩
  rw [List.forall_mem_append, List.forall_mem_singleton]
  exact ⟨hinRange hsecure (hgrew.bounded hbounded), hfinished (hserved hsecure) hbounded⟩

end

open Standard

/-- A run that goes on after lines that were refused, over two stages of groups. -/
theorem serveAll_inRange_refused :
    let pipeline : Pipeline := ⟨[⟨[], .aggregate [.key 0, .sum 1, .extremum .lowest [1, 0]]⟩,
      ⟨[], .aggregate [.count]⟩]⟩
    let calls : List Call := [.line [97, 32, 49], .line [97, 32, 113], .data [98, 32, 50, 10, 99],
      .input [.bytes [97, 32], .interrupted, .bytes [51]]]
    ∃ p notices, new (fun _ ↦ .ok fun _ ↦ true) (fun _ ↦ .sorted) pipeline .reliable 32768 =
        .ok (p, notices) ∧
      let served := p.serveAll calls
      let finished := served.1.finish.1
      served.2 = [.ok (), .error (.notANumber [113]), .error (.notANumber []), .ok ()] ∧
        served.1.table.Secure ∧ finished.state.table.Bounded ∧
        ∀ outcome ∈ served.2 ++ [finished.outcome], InRange outcome := by
  intro pipeline calls
  refine ⟨_, _, rfl, ?_⟩
  intro served finished
  have hserved : served.2 =
      [.ok (), .error (.notANumber [113]), .error (.notANumber []), .ok ()] := by decide +kernel
  have hbounded : finished.state.table.Bounded := by
    have hreceived : finished.state.table.received = [5, 2] := by decide +kernel
    rw [Table.Bounded, hreceived]
    decide
  obtain ⟨hsecure, hinRange⟩ := @serveAll_inRange
    (fun _ ↦ .ok fun _ ↦ true) (fun _ ↦ .sorted) _ _ _ pipeline .reliable 32768 rfl calls
  exact ⟨hserved, hsecure, hbounded, hinRange hbounded⟩

end Processor

end Rollup
