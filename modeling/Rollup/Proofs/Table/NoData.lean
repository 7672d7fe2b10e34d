import Rollup.Number.Standard
import Rollup.Proofs.Table.SecureChain

/-!
# Runs without data

A stage of groups without keys that has been given no row cannot render anything, and the run
ends with `Error.noData`.  By then nothing has reached the sink: a stage hands rows on only
while it renders, so that nothing behind the stage without data has been given a row
(`sink_finish_of_noData`).

If no row that is handed on while a run ends is refused, there is no other way to fail
(`finish_of_renderings`).  The rows that are handed on then are logged by
`Table.renderings`, stage by stage.
-/

namespace Rollup

open Outcome

/-! ## Visits -/

namespace Step

variable {ε σ α : Type} {p : σ → Prop} {next : σ → α → Step ε σ} {xs : List α} {s : σ}

/-- The items that going through a list comes to, each with the state in which it does. -/
def visits (next : σ → α → Step ε σ) : List α → σ → List (σ × α)
  | [], _ => []
  | a :: rest, s =>
    (s, a) :: match (next s a).outcome with
      | .ok _ => visits next rest (next s a).state
      | .error _ => []

/-- If no visit fails, all items are visited. -/
theorem each_of_visits (h : ∀ visit ∈ visits next xs s, (next visit.1 visit.2).outcome = .ok ()) :
    (each next xs s).outcome = .ok () ∧ (visits next xs s).map Prod.snd = xs := by
  induction xs generalizing s with
  | nil => exact ⟨rfl, rfl⟩
  | cons x xs ih =>
    rw [visits, List.forall_mem_cons] at h
    obtain ⟨hx, hrest⟩ := h
    dsimp only at hx
    rw [hx] at hrest
    obtain ⟨hok, hall⟩ := ih hrest
    rw [each_cons, andThen_of_ok hx, visits, hx, List.map_cons, hall]
    exact ⟨hok, rfl⟩

/-- What every step keeps is true at every visit. -/
theorem forall_visits (keeps : ∀ a ∈ xs, ∀ s, p s → p (next s a).state) (h : p s) :
    ∀ visit ∈ visits next xs s, p visit.1 ∧ visit.2 ∈ xs := by
  induction xs generalizing s with
  | nil => exact List.forall_mem_nil _
  | cons x xs ih =>
    rw [List.forall_mem_cons] at keeps
    rw [visits, List.forall_mem_cons]
    refine ⟨⟨h, List.mem_cons_self⟩, ?_⟩
    split
    · exact fun visit hvisit ↦ (ih keeps.2 (keeps.1 s h) visit hvisit).imp_right
        (List.mem_cons_of_mem x)
    · exact List.forall_mem_nil _

/-- What every step that succeeds keeps, a run that succeeds keeps. -/
theorem each_keeps_of_ok
    (keeps : ∀ a ∈ xs, ∀ s, p s → (next s a).outcome = .ok () → p (next s a).state) (h : p s)
    (hok : (each next xs s).outcome = .ok ()) : p (each next xs s).state := by
  induction xs generalizing s with
  | nil => exact h
  | cons x xs ih =>
    rw [List.forall_mem_cons] at keeps
    rw [each_cons] at hok ⊢
    obtain ⟨hx, hxs⟩ := andThen_outcome_ok.1 hok
    rw [andThen_of_ok hx]
    exact ih keeps.2 (keeps.1 s h hx) hxs

end Step

/-! ## Groups -/

namespace Grouping

/-- All groups are rendered. -/
theorem length_ordered (g : Grouping) (order : GroupOrder) : (g.ordered order).length = g.size := by
  have hall : ∀ k ∈ order.arrange g.groups.keys,
      (g.groups[k]?.map fun buffer ↦ (k, buffer)).isSome := by
    intro k hk
    rw [(order.perm _).mem_iff, Std.TreeMap.mem_keys, Std.TreeMap.mem_iff_isSome_getElem?] at hk
    rwa [Option.isSome_map]
  rw [ordered, List.filterMap_length_eq_length.2 hall, (order.perm _).length_eq,
    Std.TreeMap.length_keys]
  rfl

/-- Without keys there is at most the group of the empty string. -/
theorem size_eq_one {g : Grouping} (hall : ∀ k ∈ g.groups, k = []) (hmem : [] ∈ g.groups) :
    g.size = 1 := by
  have hkeys : g.groups.keys = [[]] := by
    have hnodup : g.groups.keys.Nodup := Std.TreeMap.nodup_keys
    have hreplicate : g.groups.keys = List.replicate g.groups.keys.length [] :=
      List.eq_replicate_iff.2 ⟨rfl, fun k hk ↦ hall k (Std.TreeMap.mem_keys.1 hk)⟩
    rw [hreplicate, List.nodup_replicate] at hnodup
    have hpos := List.length_pos_of_mem (Std.TreeMap.mem_keys.2 hmem)
    rw [hreplicate, Nat.le_antisymm hnodup hpos]
    rfl
  rw [size, ← Std.TreeMap.length_keys, hkeys]
  rfl

end Grouping

/-- Without keys there is a group exactly if there has been a row. -/
def GroupStage.HasGroup (stage : GroupStage) : Prop :=
  stage.grouping.keys = [] → (stage.rows = 0 → stage.grouping.size = 0) ∧
    (0 < stage.rows → [] ∈ stage.grouping.groups)

namespace GroupStage

variable {stage : GroupStage} {row : Row} {width : Nat}

theorem hasGroup_new (keys : List Key) (bundle : Bundle) (order : GroupOrder) :
    HasGroup ⟨.new keys, bundle, 0, order⟩ :=
  fun _ ↦ ⟨fun _ ↦ by simp [Grouping.new, Grouping.size], fun h ↦ absurd h (Nat.lt_irrefl 0)⟩

/-- A row that is taken in has a group. -/
theorem hasGroup_after [NumberReader] (h : stage.Secure width)
    (hok : (stage.grouping.push stage.bundle row).outcome = .ok ()) :
    (stage.after row).HasGroup := by
  obtain ⟨k, new, slots', hkey, hstate, -⟩ := Grouping.push_cases h.placed hok
  rw [after_of_state hstate]
  intro hkeys
  replace hkeys : stage.grouping.keys = [] := hkeys
  rw [hkeys] at hkey
  cases hkey
  exact ⟨fun hzero ↦ absurd hzero (Nat.succ_ne_zero _), fun _ ↦ Std.TreeMap.mem_insert_self⟩

/-- Without keys there is one group if there has been a row. -/
theorem HasGroup.size_eq_one (h : stage.HasGroup) (hsecure : stage.Secure width)
    (hkeys : stage.grouping.keys = []) (hrows : stage.rows ≠ 0) : stage.grouping.size = 1 := by
  refine Grouping.size_eq_one (fun k hk ↦ ?_) ((h hkeys).2 (Nat.pos_of_ne_zero hrows))
  obtain ⟨t, hlength, hcode⟩ := hsecure.coded k hk
  rw [hkeys, List.length_nil] at hlength
  rw [List.eq_nil_of_length_eq_zero hlength] at hcode
  exact (Except.ok.inj hcode).symm

theorem HasGroup.size_eq_zero_iff (h : stage.HasGroup) (hsecure : stage.Secure width)
    (hkeys : stage.grouping.keys = []) : stage.grouping.size = 0 ↔ stage.rows = 0 := by
  refine ⟨fun hzero ↦ ?_, (h hkeys).1⟩
  by_contra hrows
  cases hzero.symm.trans (h.size_eq_one hsecure hkeys hrows)

end GroupStage

/-! ## Chains -/

section

variable [NumberReader]

namespace Table

variable {table next : Table} {row : Row} {stage : GroupStage} {columns : Columns}

/-- The sink never fails, and no row has been refused so far: every stage that has been given
rows has a group for them. -/
def OnCourse : Table → Prop
  | .writer out | .passthrough out => out.sink.behaviour.NeverFails
  | .recorder _ => True
  | .filtered _ _ inner => inner.OnCourse
  | .projection _ _ next => next.OnCourse
  | .grouped stage _ next => stage.HasGroup ∧ next.OnCourse

theorem onCourse_push (hsecure : table.Secure) (h : table.OnCourse) (hrow : row.Readable)
    (hok : (table.push row).outcome = .ok ()) : (table.push row).state.OnCourse := by
  induction table generalizing row with
  | writer out =>
    obtain ⟨record, hrecord⟩ := hrow
    simp only [push, hrecord]
    have hbehaviour := (Writer.writeLine_ok h (Writer.tabbed record)).2.1
    have hstill : (out.writeLine (Writer.tabbed record)).state.sink.behaviour.NeverFails :=
      hbehaviour.symm ▸ h
    exact hstill
  | passthrough out =>
    obtain ⟨value, hvalue⟩ := hrow.exists_field 0
    simp only [push, hvalue]
    have hbehaviour := (Writer.writeLine_ok h value).2.1
    have hstill : (out.writeLine value).state.sink.behaviour.NeverFails := hbehaviour.symm ▸ h
    exact hstill
  | recorder arrivals =>
    simp only [push]
    split <;> trivial
  | filtered tests dropped inner ih =>
    obtain ⟨accepted, haccepted⟩ := hrow.exists_allAccept tests
    simp only [push, haccepted] at hok ⊢
    cases accepted with
    | true => exact ih hsecure h hrow hok
    | false => exact h
  | projection fields columns next ih =>
    obtain ⟨record, hrecord⟩ := hrow
    rw [push_projection hsecure.1 hrecord] at hok ⊢
    exact ih hsecure.2 h (Row.readable_ofFields _) hok
  | grouped stage columns next ih => exact ⟨GroupStage.hasGroup_after hsecure.1 hok, h.2⟩

/-! ### What is handed on -/

/-- The row that a stage hands on for a group, with the tables that are given it. -/
def handing? (stage : GroupStage) (visit : (Columns × Table) × Bytes × Buffer) :
    Option (Table × Row) :=
  let filling := stage.grouping.fill stage.bundle visit.1.1 visit.2
  match filling.outcome with
  | .ok _ => some (visit.1.2, .ofFields filling.state.toList)
  | .error _ => none

/-- All rows that a stage hands on while it renders its groups. -/
def handed (stage : GroupStage) (columns : Columns) (next : Table) : List (Table × Row) :=
  (Step.visits (emitGroup stage) (stage.grouping.ordered stage.order)
    (columns, next)).filterMap (handing? stage)

/-- For each stage of groups that renders at the end of a run, from the first to the last, the
rows that it hands on. -/
def renderings (table : Table) : List (List (Table × Row)) :=
  match table with
  | .writer _ | .passthrough _ | .recorder _ => []
  | .filtered _ _ inner => inner.renderings
  | .projection _ _ next => next.renderings
  | .grouped stage columns next =>
    let emitting := emitGroups stage columns next
    handed stage columns next :: match emitting.outcome with
      | .error _ => []
      | .ok _ =>
        have := depth_emitGroups stage columns next
        emitting.state.2.renderings
  termination_by table.depth
  decreasing_by all_goals simp only [depth]; omega

/-- No row that is handed on is refused. -/
def Unrefused (rows : List (Table × Row)) : Prop :=
  ∀ handing ∈ rows, (handing.1.push handing.2).outcome = .ok ()

/-- If no row is refused, a stage with groups hands on a row for each of them. -/
theorem emitGroups_of_unrefused (h : stage.Secure columns.size) (hnext : next.Secure)
    (hdata : ¬ (stage.grouping.keys = [] ∧ stage.grouping.size = 0))
    (hhanded : Unrefused (handed stage columns next)) :
    (emitGroups stage columns next).outcome = .ok () ∧
      (handed stage columns next).length = stage.grouping.size := by
  have hvisit := Step.forall_visits (secure_emitGroup h) (s := (columns, next)) ⟨rfl, hnext⟩
  have hfill : ∀ visit ∈ Step.visits (emitGroup stage) (stage.grouping.ordered stage.order)
      (columns, next), ∃ columns',
        stage.grouping.fill stage.bundle visit.1.1 visit.2 = .done columns' ∧
        emitGroup stage visit.1 visit.2 = (visit.1.2.push (.ofFields columns'.toList)).map
          fun next ↦ (columns', next) := by
    rintro ⟨⟨before, next⟩, entry⟩ hmem
    obtain ⟨⟨hsize, -⟩, hentry⟩ := hvisit _ hmem
    dsimp only at hsize
    obtain ⟨after, -, hfilled, hemit⟩ := exists_emitGroup h hsize hentry next
    exact ⟨after, hfilled, hemit⟩
  have hvisits : ∀ visit ∈ Step.visits (emitGroup stage) (stage.grouping.ordered stage.order)
      (columns, next), (emitGroup stage visit.1 visit.2).outcome = .ok () := by
    intro visit hmem
    obtain ⟨columns', hfilled, hemit⟩ := hfill visit hmem
    rw [hemit]
    refine hhanded (visit.1.2, .ofFields columns'.toList) (List.mem_filterMap.2 ⟨visit, hmem, ?_⟩)
    rw [handing?, hfilled]
    rfl
  obtain ⟨hok, hall⟩ := Step.each_of_visits hvisits
  refine ⟨?_, ?_⟩
  · rw [emitGroups, if_neg (by simpa using hdata)]
    exact hok
  · rw [← Grouping.length_ordered stage.grouping stage.order]
    conv_rhs => rw [← hall, List.length_map]
    refine List.filterMap_length_eq_length.2 fun visit hmem ↦ ?_
    obtain ⟨columns', hfilled, -⟩ := hfill visit hmem
    rw [handing?, hfilled]
    rfl

theorem onCourse_emitGroups (h : stage.Secure columns.size) (hnext : next.Secure)
    (hcourse : next.OnCourse) (hok : (emitGroups stage columns next).outcome = .ok ()) :
    (emitGroups stage columns next).state.2.OnCourse := by
  rw [emitGroups] at hok ⊢
  split
  · exact hcourse
  · rename_i hsome
    rw [if_neg hsome] at hok
    refine (Step.each_keeps_of_ok (p := fun state : Columns × Table ↦
      (state.1.size = columns.size ∧ state.2.Secure) ∧ state.2.OnCourse) ?_ ⟨⟨rfl, hnext⟩, hcourse⟩
      hok).2
    rintro entry hentry ⟨before, next⟩ ⟨⟨hsize, hnext⟩, hcourse⟩ hok
    refine ⟨secure_emitGroup h entry hentry _ ⟨hsize, hnext⟩, ?_⟩
    obtain ⟨after, -, -, hemit⟩ := exists_emitGroup h hsize hentry next
    rw [hemit] at hok ⊢
    exact onCourse_push hnext hcourse (Row.readable_ofFields _) hok

/-- If no row is refused at the end of a run, either some stage without keys has been given no
row and there is no data, or all stages have rendered, those without keys one row. -/
theorem finish_of_renderings (hsecure : table.Secure) (h : table.OnCourse)
    (hrendered : ∀ rows ∈ table.renderings, Unrefused rows) :
    (table.finish.1.outcome = .error .noData ∧
        ∃ stage ∈ table.finish.1.state.groupStages, stage.grouping.keys = [] ∧ stage.rows = 0) ∨
      table.finish.1.outcome = .ok () ∧
        List.Forall₂ (fun stage rows ↦ stage.grouping.keys = [] → stage.rows ≠ 0 ∧ rows.length = 1)
          table.finish.1.state.groupStages table.renderings := by
  induction table using finish.induct with
  | case1 out =>
    rw [finish, renderings]
    exact .inr ⟨(Writer.flush_ok h).1, .nil⟩
  | case2 out =>
    rw [finish, renderings]
    exact .inr ⟨(Writer.flush_ok h).1, .nil⟩
  | case3 arrivals =>
    rw [finish, renderings]
    exact .inr ⟨rfl, .nil⟩
  | case4 tests dropped inner ih =>
    rw [renderings] at hrendered ⊢
    rw [finish]
    exact ih hsecure h hrendered
  | case5 fields columns next ih =>
    rw [renderings] at hrendered ⊢
    rw [finish]
    exact ih hsecure.2 h hrendered
  | case6 stage columns next emitting e hemitting =>
    replace hemitting : (emitGroups stage columns next).outcome = .error e := hemitting
    rw [renderings, List.forall_mem_cons] at hrendered
    by_cases hnone : stage.grouping.keys = [] ∧ stage.grouping.size = 0
    · rw [finish_grouped, emitGroups_of_noData hnone]
      have hrows := (h.1.size_eq_zero_iff hsecure.1 hnone.1).1 hnone.2
      exact .inl ⟨rfl, stage, List.mem_cons_self, hnone.1, hrows⟩
    · have hok := (emitGroups_of_unrefused hsecure.1 hsecure.2 hnone hrendered.1).1
      cases hemitting.symm.trans hok
  | case7 stage columns next emitting u hemitting hdepth ih =>
    replace hemitting : (emitGroups stage columns next).outcome = .ok () := hemitting
    rw [renderings, List.forall_mem_cons] at hrendered
    rw [renderings, finish_grouped]
    rw [hemitting] at hrendered ⊢
    have hsome : ¬ (stage.grouping.keys = [] ∧ stage.grouping.size = 0) := fun hnone ↦ by
      rw [emitGroups_of_noData hnone] at hemitting
      cases hemitting
    have hlength := (emitGroups_of_unrefused hsecure.1 hsecure.2 hsome hrendered.1).2
    have hnext := onCourse_emitGroups hsecure.1 hsecure.2 h.2 hemitting
    rcases ih (secure_emitGroups hsecure.1 hsecure.2).2 hnext hrendered.2 with
      ⟨hnone, empty, hmem, hempty⟩ | ⟨hok, hall⟩
    · exact .inl ⟨hnone, empty, List.mem_cons_of_mem _ hmem, hempty⟩
    · refine .inr ⟨hok, .cons (fun hkeys ↦ ?_) hall⟩
      have hrows : stage.rows ≠ 0 := fun hzero ↦
        hsome ⟨hkeys, (h.1.size_eq_zero_iff hsecure.1 hkeys).2 hzero⟩
      exact ⟨hrows, hlength.trans (h.1.size_eq_one hsecure.1 hkeys hrows)⟩

/-! ### Keys -/

/-- The key fields of each stage of groups. -/
def keyFields (table : Table) : List (List Nat) :=
  table.groupStages.map fun stage ↦ stage.grouping.keys.map Key.field

theorem keyFields_push (h : table.Secure) (hrow : row.Readable) :
    (table.push row).state.keyFields = table.keyFields := by
  induction table generalizing row with
  | writer out =>
    simp only [push]
    split <;> rfl
  | passthrough out =>
    simp only [push]
    split <;> rfl
  | recorder arrivals =>
    simp only [push]
    split <;> rfl
  | filtered tests dropped inner ih =>
    simp only [push]
    split
    · rfl
    · exact ih h hrow
    · rfl
  | projection fields columns next ih =>
    obtain ⟨record, hrecord⟩ := hrow
    rw [push_projection h.1 hrecord]
    exact ih h.2 (Row.readable_ofFields _)
  | grouped stage columns next ih =>
    have hkeys := (GroupStage.after_places h.1.placed row).2.2
    exact congrArg (fun keys : List Key ↦ keys.map Key.field :: next.keyFields) hkeys

/-- In front of a stage of groups, nothing that is pushed reaches the sink. -/
theorem sink_push (h : table.keyFields ≠ []) (row : Row) :
    (table.push row).state.sink? = table.sink? := by
  induction table generalizing row with
  | writer out => exact absurd rfl h
  | passthrough out => exact absurd rfl h
  | recorder arrivals => exact absurd rfl h
  | filtered tests dropped inner ih =>
    simp only [push]
    split
    · rfl
    · exact ih h row
    · rfl
  | projection fields columns next ih =>
    simp only [push]
    split
    · rfl
    · exact ih h _
  | grouped stage columns next ih => rfl

theorem keyFields_emitGroups (h : stage.Secure columns.size) (hnext : next.Secure) :
    (emitGroups stage columns next).state.2.keyFields = next.keyFields ∧
      (next.keyFields ≠ [] → (emitGroups stage columns next).state.2.sink? = next.sink?) := by
  rw [emitGroups]
  split
  · exact ⟨rfl, fun _ ↦ rfl⟩
  · refine (Step.each_keeps (p := fun state : Columns × Table ↦
      (state.1.size = columns.size ∧ state.2.Secure) ∧ state.2.keyFields = next.keyFields ∧
        (next.keyFields ≠ [] → state.2.sink? = next.sink?)) ?_ ⟨⟨rfl, hnext⟩, rfl, fun _ ↦ rfl⟩).2
    rintro entry hentry ⟨before, next'⟩ ⟨⟨hsize, hnext'⟩, hkeys, hsink⟩
    refine ⟨secure_emitGroup h entry hentry _ ⟨hsize, hnext'⟩, ?_⟩
    obtain ⟨after, -, -, hemit⟩ := exists_emitGroup h hsize hentry next'
    rw [hemit]
    refine ⟨(keyFields_push hnext' (Row.readable_ofFields _)).trans hkeys, fun hsome ↦ ?_⟩
    exact (sink_push (hkeys ▸ hsome) _).trans (hsink hsome)

theorem keyFields_finish (h : table.Secure) :
    table.finish.1.state.keyFields = table.keyFields := by
  induction table using finish.induct with
  | case1 out => rw [finish]; rfl
  | case2 out => rw [finish]; rfl
  | case3 arrivals => rw [finish]; rfl
  | case4 tests dropped inner ih => rw [finish]; exact ih h
  | case5 fields columns next ih => rw [finish]; exact ih h.2
  | case6 stage columns next emitting e hemitting =>
    rw [finish_grouped, hemitting]
    exact congrArg (List.cons _) (keyFields_emitGroups h.1 h.2).1
  | case7 stage columns next emitting u hemitting hdepth ih =>
    rw [finish_grouped, hemitting]
    have hrest := ih (secure_emitGroups h.1 h.2).2
    exact congrArg (List.cons _) (hrest.trans (keyFields_emitGroups h.1 h.2).1)

/-- If a run ends without data, it is because of a stage of groups, and nothing has reached
the sink at its end. -/
theorem sink_finish_of_noData (h : table.Secure)
    (hnone : table.finish.1.outcome = .error .noData) :
    table.keyFields ≠ [] ∧ table.finish.1.state.sink? = table.sink? := by
  induction table using finish.induct with
  | case1 out =>
    rw [finish] at hnone
    obtain ⟨fault, ⟨⟩⟩ := Writer.exists_fault_of_flush hnone
  | case2 out =>
    rw [finish] at hnone
    obtain ⟨fault, ⟨⟩⟩ := Writer.exists_fault_of_flush hnone
  | case3 arrivals =>
    rw [finish] at hnone
    cases hnone
  | case4 tests dropped inner ih =>
    rw [finish] at hnone ⊢
    exact ih h hnone
  | case5 fields columns next ih =>
    rw [finish] at hnone ⊢
    exact ih h.2 hnone
  | case6 stage columns next emitting e hemitting =>
    replace hemitting : (emitGroups stage columns next).outcome = .error e := hemitting
    refine ⟨List.cons_ne_nil _ _, ?_⟩
    rw [finish_grouped, hemitting] at hnone ⊢
    cases hnone
    by_cases hempty : stage.grouping.keys = [] ∧ stage.grouping.size = 0
    · rw [emitGroups_of_noData hempty]
      rfl
    · exact absurd hemitting (ordinary_emitGroups h.1 h.2 hempty).ne_noData
  | case7 stage columns next emitting u hemitting hdepth ih =>
    obtain ⟨hkeys, hsink⟩ := keyFields_emitGroups h.1 h.2
    rw [finish_grouped, hemitting] at hnone ⊢
    obtain ⟨hsome, hsame⟩ := ih (secure_emitGroups h.1 h.2).2 hnone
    exact ⟨List.cons_ne_nil _ _, hsame.trans (hsink (hkeys ▸ hsome))⟩

end Table

end

/-! ## Pipelines -/

/-- The key fields of a stage that aggregates. -/
def Stage.keyFields? (s : Stage) : Option (List Nat) :=
  match s.body with
  | .project _ => none
  | .aggregate components => some (components.filterMap Component.key?)

theorem Stage.keyFields?_of_isImplicit {s : Stage} (h : s.isImplicit) : s.keyFields? = none := by
  rw [keyFields?, body_of_isImplicit h]

namespace Pipeline

variable {engine : PatternEngine} {orders : Nat → GroupOrder} {out : Writer} {table : Table}
  {notices : List Notice} {p : Pipeline}

/-- The key fields of each stage that aggregates. -/
def keyFields (p : Pipeline) : List (List Nat) := p.stages.filterMap Stage.keyFields?

theorem keyFields_handOn (pending : List Filter) (stages : List Stage) :
    (handOn pending stages).filterMap Stage.keyFields? = stages.filterMap Stage.keyFields? := by
  fun_induction handOn pending stages with
  | case1 => rfl
  | case2 => rfl
  | case3 pending s next rest himplicit ih =>
    rw [ih, List.filterMap_cons_none (Stage.keyFields?_of_isImplicit himplicit)]
  | case4 pending s next rest hexplicit ih =>
    rw [List.filterMap_cons, ih, List.filterMap_cons (a := s)]
    rfl

theorem keyFields_normalize (p : Pipeline) : p.normalize.keyFields = p.keyFields := by
  have hkept : ((handOn [] p.stages).filter fun s ↦ !isIdle s).filterMap
      Stage.keyFields? = p.keyFields := by
    rw [List.filterMap_filter, keyFields, ← keyFields_handOn [] p.stages]
    refine List.filterMap_congr fun s _ ↦ ?_
    cases hidle : isIdle s with
    | true => rw [eq_passthrough_of_isIdle hidle]; rfl
    | false => rfl
  rw [normalize]
  split
  · rename_i hnone
    rw [hnone] at hkept
    exact hkept
  · exact hkept

theorem keyFields_build (h : p.build engine orders out = .ok (table, notices)) :
    table.keyFields = p.keyFields := by
  rw [← keyFields_normalize]
  refine of_build (p := fun stages table ↦
    table.keyFields = stages.filterMap Stage.keyFields?) rfl ?_ id h
  rintro ⟨filters, body⟩ stages order next table hnext hbuilt
  cases hbuilt with
  | passthrough hout => rwa [hout] at hnext
  | projection => exact hnext
  | @grouping components a bundle hfrom =>
    have hfields : Stage.keyFields? ⟨filters, .aggregate components⟩ =
        some (a.keys.map Key.field) := by rw [Assignment.keys_eq hfrom]; rfl
    rw [List.filterMap_cons_some hfields, ← hnext]
    rfl

theorem onCourse_build (hsink : out.sink.behaviour.NeverFails)
    (h : p.build engine orders out = .ok (table, notices)) : table.OnCourse := by
  refine of_build (p := fun _ table ↦ table.OnCourse) hsink ?_ id h
  rintro ⟨filters, body⟩ stages order next table hnext hbuilt
  cases hbuilt with
  | passthrough hout => rwa [hout] at hnext
  | projection => exact hnext
  | grouping => exact ⟨GroupStage.hasGroup_new _ _ order, hnext⟩

theorem sink_build (h : p.build engine orders out = .ok (table, notices)) :
    table.sink? = some out.sink := by
  refine of_build (p := fun _ table ↦ table.sink? = some out.sink) rfl ?_ id h
  rintro ⟨filters, body⟩ stages order next table hnext hbuilt
  cases hbuilt with
  | passthrough hout => rwa [hout] at hnext
  | projection => exact hnext
  | grouping => exact hnext

end Pipeline

/-! ## Processors -/

namespace Processor

variable {engine : PatternEngine} {orders : Nat → GroupOrder} {behaviour : SinkBehaviour}
  {threshold : Nat} {pipeline : Pipeline} {first : Processor} {notices : List Notice}

/-- If a run whose rows were all taken in ends without data, nothing has reached the sink.  If,
moreover, no row is refused that stages hand on to each other at the end, there is no data
exactly if a stage without keys has been given no row; otherwise the run succeeds, and every
stage without keys has handed on one row. -/
theorem finish_noData_iff [NumberReader]
    (h : new engine orders pipeline behaviour threshold = .ok (first, notices))
    (hsink : behaviour.NeverFails) (lines : List Bytes)
    (hpushed : (first.pushLines lines).outcome = .ok ()) :
    let p := (first.pushLines lines).state
    let finished := p.finish.1
    finished.state.table.keyFields = pipeline.keyFields ∧
      (finished.outcome = .error .noData →
        finished.state.table.sink? = some (.new behaviour)) ∧
      ((∀ rows ∈ p.table.renderings, Table.Unrefused rows) →
        (finished.outcome = .error .noData ↔
          ∃ stage ∈ finished.state.table.groupStages, stage.grouping.keys = [] ∧ stage.rows = 0) ∧
        (finished.outcome ≠ .error .noData → finished.outcome = .ok () ∧
          List.Forall₂ (fun stage rows ↦ stage.grouping.keys = [] → rows.length = 1)
            finished.state.table.groupStages p.table.renderings)) := by
  intro p finished
  obtain ⟨⟨table, others⟩, hbuild, heq⟩ := map_eq_ok.1 h
  cases heq
  -- What is so after every line that is taken in.
  obtain ⟨hsecure, hcourse, hkeys, htouched⟩ := Step.each_keeps_of_ok
    (p := fun q : Processor ↦ q.table.Secure ∧ q.table.OnCourse ∧
      q.table.keyFields = pipeline.keyFields ∧
      (pipeline.keyFields ≠ [] → q.table.sink? = some (.new behaviour)))
    (fun line _ q ⟨hsecure, hcourse, hkeys, htouched⟩ hok ↦ by
      have hline := Row.readable_ofLine line
      exact ⟨Table.secure_push hsecure hline, Table.onCourse_push hsecure hcourse hline hok,
        (Table.keyFields_push hsecure hline).trans hkeys, fun hsome ↦
          (Table.sink_push (hkeys ▸ hsome) _).trans (htouched hsome)⟩)
    ⟨Pipeline.secure_build hbuild, Pipeline.onCourse_build hsink hbuild,
      Pipeline.keyFields_build hbuild, fun _ ↦ Pipeline.sink_build hbuild⟩ hpushed
  refine ⟨(Table.keyFields_finish hsecure).trans hkeys, fun hnone ↦ ?_, fun hrendered ↦ ?_⟩
  · obtain ⟨hsome, hsame⟩ := Table.sink_finish_of_noData hsecure hnone
    exact hsame.trans (htouched (hkeys ▸ hsome))
  · rcases Table.finish_of_renderings hsecure hcourse hrendered with
      ⟨hnone, hempty⟩ | ⟨hok, hall⟩
    · exact ⟨⟨fun _ ↦ hempty, fun _ ↦ hnone⟩, fun hsome ↦ absurd hnone hsome⟩
    · have hrows : ∀ stage ∈ finished.state.table.groupStages,
          stage.grouping.keys = [] → stage.rows ≠ 0 :=
        ((List.forall₂_and_left ..).1 (hall.imp fun stage rows hstage ↦
          (⟨fun hkeys ↦ (hstage hkeys).1, trivial⟩ : _ ∧ True))).1
      refine ⟨⟨fun hnone ↦ ?_, fun ⟨stage, hmem, hnone, hzero⟩ ↦ ?_⟩, fun _ ↦ ⟨hok, ?_⟩⟩
      · cases hnone.symm.trans hok
      · exact absurd hzero (hrows stage hmem hnone)
      · exact hall.imp fun stage rows hstage hkeys ↦ (hstage hkeys).2

open Standard

/-- A stage without keys behind a filter that drops the only group. -/
theorem finish_noData_iff_filtered :
    let pipeline : Pipeline :=
      ⟨[⟨[], .aggregate [.key 0, .count]⟩, ⟨[⟨0, "A"⟩], .aggregate [.count]⟩]⟩
    ∃ first notices, new (fun _ ↦ .ok fun value ↦ value.contains 65) (fun _ ↦ .sorted) pipeline
        .reliable 32768 = .ok (first, notices) ∧
      (first.pushLines [[120]]).outcome = .ok () ∧
      let p := (first.pushLines [[120]]).state
      let finished := p.finish.1
      (∀ rows ∈ p.table.renderings, Table.Unrefused rows) ∧
        finished.outcome = .error .noData ∧
        finished.state.table.sink? = some (.new .reliable) ∧
        ∃ stage ∈ finished.state.table.groupStages, stage.grouping.keys = [] ∧ stage.rows = 0 := by
  intro pipeline
  refine ⟨_, _, rfl, by decide +kernel, ?_⟩
  intro p finished
  have hrendered : ∀ rows ∈ p.table.renderings, Table.Unrefused rows := by
    simp only [Table.Unrefused]
    decide +kernel
  have hnone : finished.outcome = .error .noData := by decide +kernel
  obtain ⟨-, hsink, hfinish⟩ := @finish_noData_iff
    (fun _ ↦ .ok fun value ↦ value.contains 65) (fun _ ↦ .sorted) .reliable 32768 pipeline _ _ _
    rfl SinkBehaviour.neverFails_reliable [[120]] (by decide +kernel)
  exact ⟨hrendered, hnone, hsink hnone, (hfinish hrendered).1.1 hnone⟩

end Processor

end Rollup
