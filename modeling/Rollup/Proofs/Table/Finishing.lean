import Rollup.Number.Standard
import Rollup.Proofs.Table.NoData

/-!
# The order of calls in a chain

Rows and requests to finish travel along a chain of tables as calls, each made of the table at
some place.  `Table.calls` logs those that some requests to the first table lead to, in order.
The log accounts for all that becomes of the tables: each of them is what the calls made of it
have left, and nothing else (`Explains`).

A table that is told to finish first gets the rest of its rows to the table behind it and then
tells that one to finish, so that from then on only tables behind it are called
(`inOrder_finishCalls`).  From this and the way the log is put together come
(`Pipeline.finish_inOrder`):

| What | Where from |
|---|---|
| a table finishes at most once, and is given no row afterwards | `InOrder.requestsTo_eq` |
| all tables finish if the first one does so with success | `mem_finishCalls` |
| the last thing that is asked of the sink is to flush | `flushed_finish` |
-/

namespace Rollup

open Outcome

namespace Table

/-! ## The log -/

/-- A request that is made of a table of a chain. -/
structure Call where
  /-- The number of tables in front of it. -/
  place : Nat
  request : Request

/-- The calls that a row given to the table at a place leads to. -/
def pushCalls (place : Nat) (table : Table) (row : Row) : List Call :=
  ⟨place, .push row⟩ :: match table with
    | .writer _ | .passthrough _ | .recorder _ | .grouped _ _ _ => []
    | .filtered tests _ inner =>
      match FieldTest.allAccept row tests with
      | .ok true => inner.pushCalls (place + 1) row
      | .ok false | .error _ => []
    | .projection fields columns next =>
      let filling := Step.each (fun columns (column, field) ↦
        .ofExcept columns (do columns.put column (← row.field field)))
        (fields.zipIdx.map fun (field, column) ↦ (column, field)) columns
      match filling.outcome with
      | .ok _ => next.pushCalls (place + 1) (.ofFields filling.state.toList)
      | .error _ => []

/-- The calls that the rows which a stage hands on lead to. -/
def handedCalls (place : Nat) (handings : List (Table × Row)) : List Call :=
  handings.flatMap fun (table, row) ↦ table.pushCalls place row

section

variable [NumberReader]

/-- The calls that telling the table at a place to finish leads to. -/
def finishCalls (place : Nat) (table : Table) : List Call :=
  ⟨place, .finish⟩ :: match table with
    | .writer _ | .passthrough _ | .recorder _ => []
    | .filtered _ _ inner => inner.finishCalls (place + 1)
    | .projection _ _ next => next.finishCalls (place + 1)
    | .grouped stage columns next =>
      let emitting := emitGroups stage columns next
      handedCalls (place + 1) (handed stage columns next) ++ match emitting.outcome with
        | .error _ => []
        | .ok _ =>
          have := depth_emitGroups stage columns next
          emitting.state.2.finishCalls (place + 1)
  termination_by table.depth
  decreasing_by all_goals simp only [depth]; omega

theorem finishCalls_of_error {stage : GroupStage} {columns : Columns} {next : Table} {e : Error}
    (h : (emitGroups stage columns next).outcome = .error e) (place : Nat) :
    finishCalls place (.grouped stage columns next) =
      ⟨place, .finish⟩ :: handedCalls (place + 1) (handed stage columns next) := by
  rw [finishCalls]
  dsimp only
  rw [h, List.append_nil]

theorem finishCalls_of_ok {stage : GroupStage} {columns : Columns} {next : Table} {u : Unit}
    (h : (emitGroups stage columns next).outcome = .ok u) (place : Nat) :
    finishCalls place (.grouped stage columns next) =
      ⟨place, .finish⟩ :: (handedCalls (place + 1) (handed stage columns next) ++
        (emitGroups stage columns next).state.2.finishCalls (place + 1)) := by
  rw [finishCalls]
  dsimp only
  rw [h]

def serveCalls (place : Nat) (table : Table) : Request → List Call
  | .push row => table.pushCalls place row
  | .finish => table.finishCalls place

/-- The calls that requests to the table at a place lead to. -/
def calls (place : Nat) (table : Table) : List Request → List Call
  | [] => []
  | request :: rest =>
    table.serveCalls place request ++ (table.serve request).state.calls place rest

/-- What is asked of the table at a place. -/
def requestsTo (place : Nat) (log : List Call) : List Request :=
  (log.filter fun call ↦ call.place = place).map Call.request

/-! ## What the log accounts for -/

def next? : Table → Option Table
  | .writer _ | .passthrough _ | .recorder _ => none
  | .filtered _ _ inner => some inner
  | .projection _ _ next | .grouped _ _ next => some next

/-- The table at a place. -/
def at? : Nat → Table → Option Table
  | 0, table => some table
  | n + 1, table => table.next?.bind (at? n)

/-- The table at every place is what serving the calls made of it has left. -/
structure Explains (place : Nat) (log : List Call) (before after : Table) : Prop where
  place_le : ∀ call ∈ log, place ≤ call.place
  tables : ∀ n, after.at? n =
    (before.at? n).map fun table ↦ (table.serveAll (requestsTo (place + n) log)).1

end

variable {table next before mid after : Table} {stage : GroupStage} {columns : Columns}
  {place : Nat} {log log' : List Call} {rows : List Row}

theorem serveAll_append [NumberReader] (table : Table) (rs rs' : List Request) :
    table.serveAll (rs ++ rs') = (((table.serveAll rs).1.serveAll rs').1,
      (table.serveAll rs).2 ++ ((table.serveAll rs).1.serveAll rs').2) := by
  induction rs generalizing table with
  | nil => rfl
  | cons request rs ih => rw [List.cons_append, serveAll, ih]; rfl

theorem requestsTo_append (place : Nat) (log log' : List Call) :
    requestsTo place (log ++ log') = requestsTo place log ++ requestsTo place log' := by
  rw [requestsTo, List.filter_append, List.map_append]
  rfl

theorem requestsTo_cons_self (place : Nat) (request : Request) (log : List Call) :
    requestsTo place (⟨place, request⟩ :: log) = request :: requestsTo place log := by
  simp [requestsTo]

theorem requestsTo_cons_of_ne {place' : Nat} (h : place' ≠ place) (request : Request)
    (log : List Call) : requestsTo place (⟨place', request⟩ :: log) = requestsTo place log := by
  simp [requestsTo, h]

theorem requestsTo_eq_nil (h : ∀ call ∈ log, place < call.place) : requestsTo place log = [] := by
  have hnone : log.filter (fun call ↦ call.place = place) = [] :=
    List.filter_eq_nil_iff.2 fun call hcall ↦ by simpa using Nat.ne_of_gt (h call hcall)
  rw [requestsTo, hnone, List.map_nil]

section

variable [NumberReader]

namespace Explains

theorem refl (place : Nat) (table : Table) : Explains place [] table table where
  place_le := nofun
  tables _ := Option.map_id'.symm

theorem trans (h : Explains place log before mid) (h' : Explains place log' mid after) :
    Explains place (log ++ log') before after where
  place_le := List.forall_mem_append.2 ⟨h.place_le, h'.place_le⟩
  tables n := by
    rw [h'.tables, h.tables, Option.map_map]
    congr 1
    funext table
    rw [requestsTo_append, serveAll_append]
    rfl

/-- A table that makes calls of the one behind it. -/
theorem cons {request : Request} {next' : Table} (h : Explains (place + 1) log next next')
    (hserve : (before.serve request).state = after) (hbefore : before.next? = some next)
    (hafter : after.next? = some next') :
    Explains place (⟨place, request⟩ :: log) before after where
  place_le := List.forall_mem_cons.2
    ⟨Nat.le_refl place, fun call hcall ↦ Nat.le_of_succ_le (h.place_le call hcall)⟩
  tables n := by
    cases n with
    | zero =>
      rw [Nat.add_zero, requestsTo_cons_self, requestsTo_eq_nil h.place_le, ← hserve]
      rfl
    | succ n =>
      rw [requestsTo_cons_of_ne (by omega), at?, at?, hbefore, hafter, Nat.add_comm n,
        ← Nat.add_assoc]
      exact h.tables n

/-- A table with none behind it. -/
theorem last {request : Request} (hserve : (before.serve request).state = after)
    (hbefore : before.next? = none) (hafter : after.next? = none) :
    Explains place [⟨place, request⟩] before after where
  place_le := List.forall_mem_singleton.2 (Nat.le_refl place)
  tables n := by
    cases n with
    | zero =>
      rw [Nat.add_zero, requestsTo_cons_self, ← hserve]
      rfl
    | succ n =>
      rw [at?, at?, hbefore, hafter]
      rfl

end Explains

theorem explains_push (place : Nat) (table : Table) (row : Row) :
    Explains place (table.pushCalls place row) table (table.push row).state := by
  induction table generalizing place row with
  | writer out =>
    refine .last rfl rfl ?_
    simp only [push]
    split <;> rfl
  | passthrough out =>
    refine .last rfl rfl ?_
    simp only [push]
    split <;> rfl
  | recorder arrivals =>
    refine .last rfl rfl ?_
    simp only [push]
    split <;> rfl
  | filtered tests dropped inner ih =>
    cases haccepted : FieldTest.allAccept row tests with
    | error e =>
      simp only [pushCalls, haccepted]
      refine .cons (.refl _ inner) rfl rfl ?_
      simp only [push, haccepted]
      rfl
    | ok accepted =>
      cases accepted with
      | true =>
        simp only [pushCalls, haccepted]
        refine .cons (ih (place + 1) row) rfl rfl ?_
        simp only [push, haccepted]
        rfl
      | false =>
        simp only [pushCalls, haccepted]
        refine .cons (.refl _ inner) rfl rfl ?_
        simp only [push, haccepted]
        rfl
  | projection fields columns next ih =>
    simp only [pushCalls]
    split
    · rename_i hfilled
      refine .cons (ih (place + 1) _) rfl rfl ?_
      simp only [push]
      rw [hfilled]
      rfl
    · rename_i hrefused
      refine .cons (.refl _ next) rfl rfl ?_
      simp only [push]
      rw [hrefused]
      rfl
  | grouped stage columns next ih => exact .cons (.refl _ next) rfl rfl rfl

/-- The rows that are handed on for groups account for what becomes of the table behind. -/
theorem explains_each (place : Nat) (stage : GroupStage) (entries : List (Bytes × Buffer))
    (columns : Columns) (next : Table) :
    Explains place
      (handedCalls place ((Step.visits (emitGroup stage) entries (columns, next)).filterMap
        (handing? stage)))
      next (Step.each (emitGroup stage) entries (columns, next)).state.2 := by
  induction entries generalizing columns next with
  | nil => exact .refl place next
  | cons entry entries ih =>
    rw [Step.visits, Step.each_cons]
    cases hfilling : (stage.grouping.fill stage.bundle columns entry).outcome with
    | error e =>
      have hnone : handing? stage ((columns, next), entry) = none := by
        simp only [handing?, hfilling]
      have hemit : emitGroup stage (columns, next) entry =
          .failed ((stage.grouping.fill stage.bundle columns entry).state, next) e := by
        simp only [emitGroup, hfilling]
      rw [List.filterMap_cons_none hnone, hemit]
      exact .refl place next
    | ok u =>
      have hsome : handing? stage ((columns, next), entry) = some (next,
          .ofFields (stage.grouping.fill stage.bundle columns entry).state.toList) := by
        simp only [handing?, hfilling]
      have hemit : emitGroup stage (columns, next) entry =
          (next.push (.ofFields (stage.grouping.fill stage.bundle columns entry).state.toList)).map
            fun next ↦ ((stage.grouping.fill stage.bundle columns entry).state, next) := by
        simp only [emitGroup, hfilling]
      have hpush := explains_push place next
        (.ofFields (stage.grouping.fill stage.bundle columns entry).state.toList)
      rw [List.filterMap_cons_some hsome, hemit, handedCalls, List.flatMap_cons]
      refine hpush.trans ?_
      cases hpushed : (next.push (.ofFields
        (stage.grouping.fill stage.bundle columns entry).state.toList)).outcome with
      | error e =>
        rw [Step.map_outcome, hpushed, Step.map_andThen_of_error hpushed]
        exact .refl place _
      | ok u =>
        rw [Step.map_outcome, hpushed, Step.map_andThen_of_ok hpushed]
        exact ih _ _

theorem explains_emitGroups (place : Nat) (stage : GroupStage) (columns : Columns) (next : Table) :
    Explains place (handedCalls place (handed stage columns next)) next
      (emitGroups stage columns next).state.2 := by
  by_cases hnone : stage.grouping.keys = [] ∧ stage.grouping.size = 0
  · have hordered : stage.grouping.ordered stage.order = [] :=
      List.eq_nil_of_length_eq_zero ((Grouping.length_ordered _ _).trans hnone.2)
    rw [emitGroups_of_noData hnone, handed, hordered]
    exact .refl place next
  · rw [emitGroups, if_neg (by simpa using hnone)]
    exact explains_each place stage _ columns next

theorem explains_finish (place : Nat) (table : Table) :
    Explains place (table.finishCalls place) table table.finish.1.state := by
  induction table using finish.induct generalizing place with
  | case1 out =>
    rw [finishCalls]
    exact .last rfl rfl (by rw [finish]; rfl)
  | case2 out =>
    rw [finishCalls]
    exact .last rfl rfl (by rw [finish]; rfl)
  | case3 arrivals =>
    rw [finishCalls]
    exact .last rfl rfl (by rw [finish]; rfl)
  | case4 tests dropped inner ih =>
    rw [finishCalls]
    exact .cons (ih (place + 1)) rfl rfl (by rw [finish]; rfl)
  | case5 fields columns next ih =>
    rw [finishCalls]
    exact .cons (ih (place + 1)) rfl rfl (by rw [finish]; rfl)
  | case6 stage columns next emitting e hemitting =>
    have hemit := explains_emitGroups (place + 1) stage columns next
    rw [finishCalls_of_error hemitting]
    exact .cons hemit rfl rfl (by rw [finish_grouped, hemitting]; rfl)
  | case7 stage columns next emitting u hemitting hdepth ih =>
    have hemit := explains_emitGroups (place + 1) stage columns next
    rw [finishCalls_of_ok hemitting]
    exact .cons (hemit.trans (ih (place + 1))) rfl rfl (by rw [finish_grouped, hemitting]; rfl)

theorem explains_calls (place : Nat) (table : Table) (rs : List Request) :
    Explains place (table.calls place rs) table (table.serveAll rs).1 := by
  induction rs generalizing table with
  | nil => exact .refl place table
  | cons request rs ih =>
    refine .trans ?_ (ih _)
    cases request with
    | push row => exact explains_push place table row
    | finish => exact explains_finish place table

end

/-! ## The order of the log -/

/-- From when a table is told to finish only tables behind it are called. -/
def InOrder (log : List Call) : Prop :=
  log.Pairwise fun earlier later ↦ earlier.request = .finish → earlier.place < later.place

/-- Rows are all that is handed on. -/
def OnlyRows (log : List Call) : Prop := ∀ call ∈ log, call.request ≠ .finish

theorem onlyRows_pushCalls (place : Nat) (table : Table) (row : Row) :
    OnlyRows (table.pushCalls place row) := by
  induction table generalizing place row with
  | writer | passthrough | recorder | grouped => simp [pushCalls, OnlyRows]
  | filtered tests dropped inner ih =>
    refine List.forall_mem_cons.2 ⟨nofun, ?_⟩
    split
    · exact ih (place + 1) row
    · exact List.forall_mem_nil _
    · exact List.forall_mem_nil _
  | projection fields columns next ih =>
    refine List.forall_mem_cons.2 ⟨nofun, ?_⟩
    dsimp only
    split
    · exact ih (place + 1) _
    · exact List.forall_mem_nil _

theorem onlyRows_handedCalls (place : Nat) (handings : List (Table × Row)) :
    OnlyRows (handedCalls place handings) := by
  intro call hcall
  obtain ⟨handing, -, hmem⟩ := List.mem_flatMap.1 hcall
  exact onlyRows_pushCalls place handing.1 handing.2 call hmem

theorem onlyRows_calls [NumberReader] (place : Nat) (table : Table) (rows : List Row) :
    OnlyRows (table.calls place (rows.map .push)) := by
  induction rows generalizing table with
  | nil => exact List.forall_mem_nil _
  | cons row rows ih =>
    exact List.forall_mem_append.2 ⟨onlyRows_pushCalls place table row, ih _⟩

/-- Rows may come before anything. -/
theorem InOrder.append_left (h : OnlyRows log) (h' : InOrder log') : InOrder (log ++ log') := by
  have hnever : ∀ call ∈ log, ∀ other : Call, call.request = .finish → call.place < other.place :=
    fun call hcall _ hfinish ↦ absurd hfinish (h call hcall)
  exact List.pairwise_append.2 ⟨List.pairwise_of_forall_mem_list fun call hcall other _ ↦
    hnever call hcall other, h', fun call hcall other _ ↦ hnever call hcall other⟩

/-- A table that is told to finish calls those behind it. -/
theorem InOrder.cons (h : InOrder log) (hplace : ∀ call ∈ log, place + 1 ≤ call.place) :
    InOrder (⟨place, .finish⟩ :: log) :=
  List.pairwise_cons.2 ⟨fun call hcall _ ↦ hplace call hcall, h⟩

section

variable [NumberReader]

theorem inOrder_finishCalls (place : Nat) (table : Table) :
    InOrder (table.finishCalls place) := by
  induction table using finish.induct generalizing place with
  | case1 out => rw [finishCalls]; exact List.pairwise_singleton _ _
  | case2 out => rw [finishCalls]; exact List.pairwise_singleton _ _
  | case3 arrivals => rw [finishCalls]; exact List.pairwise_singleton _ _
  | case4 tests dropped inner ih =>
    rw [finishCalls]
    exact (ih (place + 1)).cons (explains_finish (place + 1) inner).place_le
  | case5 fields columns next ih =>
    rw [finishCalls]
    exact (ih (place + 1)).cons (explains_finish (place + 1) next).place_le
  | case6 stage columns next emitting e hemitting =>
    rw [finishCalls_of_error hemitting]
    refine InOrder.cons ?_ (explains_emitGroups (place + 1) stage columns next).place_le
    rw [← List.append_nil (handedCalls _ _)]
    exact .append_left (onlyRows_handedCalls _ _) .nil
  | case7 stage columns next emitting u hemitting hdepth ih =>
    rw [finishCalls_of_ok hemitting]
    exact (InOrder.append_left (onlyRows_handedCalls _ _) (ih (place + 1))).cons
      ((explains_emitGroups (place + 1) stage columns next).trans
        (explains_finish (place + 1) emitting.state.2)).place_le

theorem calls_append (place : Nat) (table : Table) (rs rs' : List Request) :
    table.calls place (rs ++ rs') =
      table.calls place rs ++ (table.serveAll rs).1.calls place rs' := by
  induction rs generalizing table with
  | nil => rfl
  | cons request rs ih =>
    rw [List.cons_append, calls, ih, calls, List.append_assoc]
    rfl

theorem calls_finish (place : Nat) (table : Table) (rows : List Row) :
    table.calls place (rows.map .push ++ [.finish]) = table.calls place (rows.map .push) ++
      (table.serveAll (rows.map .push)).1.finishCalls place := by
  rw [calls_append, calls, calls, List.append_nil]
  rfl

theorem inOrder_calls (place : Nat) (table : Table) (rows : List Row) :
    InOrder (table.calls place (rows.map .push ++ [.finish])) := by
  rw [calls_finish]
  exact .append_left (onlyRows_calls place table rows) (inOrder_finishCalls place _)

end

/-- A table is given rows and then, at most once, told to finish. -/
theorem InOrder.requestsTo_eq (h : InOrder log) (place : Nat) :
    ∃ given : List Row, requestsTo place log = given.map .push ∨
      requestsTo place log = given.map .push ++ [.finish] := by
  induction log with
  | nil => exact ⟨[], .inl rfl⟩
  | cons call log ih =>
    obtain ⟨hcall, hlog⟩ := List.pairwise_cons.1 h
    obtain ⟨given, hgiven⟩ := ih hlog
    obtain ⟨at', request⟩ := call
    by_cases hplace : at' = place
    · subst hplace
      rw [requestsTo_cons_self]
      cases request with
      | push row =>
        refine ⟨row :: given, hgiven.imp (fun hrows ↦ ?_) fun hrows ↦ ?_⟩
        · rw [hrows, List.map_cons]
        · rw [hrows, List.map_cons, List.cons_append]
      | finish =>
        rw [requestsTo_eq_nil fun other hother ↦ hcall other hother rfl]
        exact ⟨[], .inr rfl⟩
    · rw [requestsTo_cons_of_ne hplace]
      exact ⟨given, hgiven⟩

theorem InOrder.exists_given (h : InOrder log) (hfinish : ⟨place, .finish⟩ ∈ log) :
    ∃ given : List Row, requestsTo place log = given.map .push ++ [.finish] := by
  obtain ⟨given, hrows | hrows⟩ := h.requestsTo_eq place
  · have hmem : Request.finish ∈ requestsTo place log :=
      List.mem_map.2 ⟨_, List.mem_filter.2 ⟨hfinish, decide_eq_true rfl⟩, rfl⟩
    rw [hrows] at hmem
    obtain ⟨row, -, hrow⟩ := List.mem_map.1 hmem
    cases hrow
  · exact ⟨given, hrows⟩

/-! ## Runs that succeed -/

theorem mem_cons_finish {n depth : Nat} (hn : n ≤ depth + 1)
    (h : ∀ n ≤ depth, ⟨place + 1 + n, .finish⟩ ∈ log) :
    ⟨place + n, .finish⟩ ∈ (⟨place, .finish⟩ :: log : List Call) := by
  cases n with
  | zero => exact List.mem_cons_self
  | succ n =>
    rw [Nat.add_comm n, ← Nat.add_assoc]
    exact List.mem_cons_of_mem _ (h n (Nat.le_of_succ_le_succ hn))

section

variable [NumberReader]

/-- If a table finishes with success, so do all behind it. -/
theorem mem_finishCalls (hok : table.finish.1.outcome = .ok ()) (place : Nat) {n : Nat}
    (hn : n ≤ table.depth) : ⟨place + n, .finish⟩ ∈ table.finishCalls place := by
  induction table using finish.induct generalizing place n with
  | case1 out => rw [finishCalls, Nat.le_zero.1 hn]; exact List.mem_cons_self
  | case2 out => rw [finishCalls, Nat.le_zero.1 hn]; exact List.mem_cons_self
  | case3 arrivals => rw [finishCalls, Nat.le_zero.1 hn]; exact List.mem_cons_self
  | case4 tests dropped inner ih =>
    rw [finish] at hok
    rw [finishCalls]
    exact mem_cons_finish hn fun n hn ↦ ih hok (place + 1) hn
  | case5 fields columns next ih =>
    rw [finish] at hok
    rw [finishCalls]
    exact mem_cons_finish hn fun n hn ↦ ih hok (place + 1) hn
  | case6 stage columns next emitting e hemitting =>
    rw [finish_grouped, hemitting] at hok
    cases hok
  | case7 stage columns next emitting u hemitting hdepth ih =>
    rw [finish_grouped, hemitting] at hok
    rw [finishCalls_of_ok hemitting]
    exact mem_cons_finish hn fun n hn ↦
      List.mem_append_right _ (ih hok (place + 1) (hdepth.symm ▸ hn))

/-- The writer at the end of a chain, if there is one. -/
def writer? : Table → Option Writer
  | .writer out | .passthrough out => some out
  | .recorder _ => none
  | .filtered _ _ inner => inner.writer?
  | .projection _ _ next | .grouped _ _ next => next.writer?

theorem isSome_writer_push (table : Table) (row : Row) :
    (table.push row).state.writer?.isSome = table.writer?.isSome := by
  induction table generalizing row with
  | writer out => simp only [push]; split <;> rfl
  | passthrough out => simp only [push]; split <;> rfl
  | recorder arrivals => simp only [push]; split <;> rfl
  | filtered tests dropped inner ih =>
    simp only [push]
    split
    · rfl
    · exact ih row
    · rfl
  | projection fields columns next ih =>
    simp only [push]
    split
    · rfl
    · exact ih _
  | grouped stage columns next ih => rfl

theorem isSome_writer_emitGroups (stage : GroupStage) (columns : Columns) (next : Table) :
    (emitGroups stage columns next).state.2.writer?.isSome = next.writer?.isSome := by
  rw [emitGroups]
  split
  · rfl
  · refine Step.each_invariant
      (p := fun state : Columns × Table ↦ state.2.writer?.isSome = next.writer?.isSome) ?_ _ rfl
    intro state entry h
    rw [emitGroup]
    split
    · exact h
    · exact (isSome_writer_push _ _).trans h

/-- Rows change nothing in how a chain is made up. -/
theorem serveAll_rows (table : Table) (rows : List Row) :
    (table.serveAll (rows.map .push)).1.depth = table.depth ∧
      (table.serveAll (rows.map .push)).1.writer?.isSome = table.writer?.isSome := by
  induction rows generalizing table with
  | nil => exact ⟨rfl, rfl⟩
  | cons row rows ih =>
    obtain ⟨hdepth, hwriter⟩ := ih (table.push row).state
    exact ⟨hdepth.trans (depth_push table row), hwriter.trans (isSome_writer_push table row)⟩

end

/-- Everything has been given to the sink, and then the sink has been told to flush. -/
def Flushed (out : Writer) : Prop := out.buffer = #[] ∧ out.sink.calls.back? = some .flushed

theorem flushed_of_flush {out : Writer} (hok : out.flush.outcome = .ok ()) :
    Flushed out.flush.state :=
  ⟨(out.flush_received.2.2 hok).1, Writer.back?_flush hok⟩

/-- A chain with a writer that finishes with success flushes. -/
theorem flushed_finish [NumberReader] (hwriter : table.writer?.isSome)
    (hok : table.finish.1.outcome = .ok ()) :
    ∃ out, table.finish.1.state.writer? = some out ∧ Flushed out := by
  induction table using finish.induct with
  | case1 out =>
    rw [finish] at hok ⊢
    exact ⟨_, rfl, flushed_of_flush hok⟩
  | case2 out =>
    rw [finish] at hok ⊢
    exact ⟨_, rfl, flushed_of_flush hok⟩
  | case3 arrivals => cases hwriter
  | case4 tests dropped inner ih =>
    rw [finish] at hok ⊢
    exact ih hwriter hok
  | case5 fields columns next ih =>
    rw [finish] at hok ⊢
    exact ih hwriter hok
  | case6 stage columns next emitting e hemitting =>
    rw [finish_grouped, hemitting] at hok
    cases hok
  | case7 stage columns next emitting u hemitting hdepth ih =>
    rw [finish_grouped, hemitting] at hok ⊢
    exact ih ((isSome_writer_emitGroups stage columns next).trans hwriter) hok

end Table

namespace Pipeline

variable {engine : PatternEngine} {orders : Nat → GroupOrder} {out : Writer} {table : Table}
  {notices : List Notice} {p : Pipeline}

theorem writer_build (h : p.build engine orders out = .ok (table, notices)) :
    table.writer? = some out := by
  refine of_build (p := fun _ table ↦ table.writer? = some out) rfl ?_ id h
  rintro ⟨filters, body⟩ stages order next table hnext hbuilt
  cases hbuilt with
  | passthrough hout => rwa [hout] at hnext
  | projection => exact hnext
  | grouping => exact hnext

open Table

/-- Rows are pushed, whatever becomes of them, and then the first table is told to finish.  The
log of all calls accounts for what has become of the tables.  Every table is told to finish at
most once, and is given no row afterwards; from then on only tables behind it are called.  If
finishing succeeds, every table has been told to finish after all its rows, and then nothing
is left in the writer, and flushing is the last that was asked of the sink. -/
theorem finish_inOrder [NumberReader]
    (hbuild : p.build engine orders out = .ok (table, notices)) (rows : List Row) :
    let requests := rows.map .push ++ [.finish]
    let log := table.calls 0 requests
    let finished := (table.serveAll (rows.map .push)).1.finish.1
    (∀ place, finished.state.at? place = (table.at? place).map fun before ↦
      (before.serveAll (requestsTo place log)).1) ∧
    (∀ place, ∃ given : List Row, requestsTo place log = given.map .push ∨
      requestsTo place log = given.map .push ++ [.finish]) ∧
    log.Pairwise (fun earlier later ↦ earlier.request = .finish → earlier.place < later.place) ∧
    (finished.outcome = .ok () →
      (∀ place ≤ table.depth, ∃ given : List Row,
        requestsTo place log = given.map .push ++ [.finish]) ∧
      ∃ out, finished.state.writer? = some out ∧ out.buffer = #[] ∧
        out.sink.calls.back? = some .flushed) := by
  intro requests log finished
  have hserved : (table.serveAll requests).1 = finished.state := by
    rw [serveAll_append]
    rfl
  have hexplains : Explains 0 log table finished.state := hserved ▸ explains_calls 0 table requests
  have hinOrder : InOrder log := inOrder_calls 0 table rows
  obtain ⟨hdepth, hwriter⟩ := serveAll_rows table rows
  refine ⟨fun place ↦ ?_, hinOrder.requestsTo_eq, hinOrder, fun hok ↦ ⟨fun place hplace ↦ ?_, ?_⟩⟩
  · have htables := hexplains.tables place
    rwa [Nat.zero_add] at htables
  · refine hinOrder.exists_given ?_
    rw [← hdepth] at hplace
    have hmem := mem_finishCalls hok 0 hplace
    rw [Nat.zero_add] at hmem
    have hlog : log = table.calls 0 (rows.map .push) ++
        (table.serveAll (rows.map .push)).1.finishCalls 0 := calls_finish 0 table rows
    rw [hlog]
    exact List.mem_append_right _ hmem
  · refine flushed_finish ?_ hok
    rw [hwriter, writer_build hbuild]
    rfl

open Standard

/-- A row that is no number is refused; the two groups of the first stage are handed to the
second one through a filter that drops one of them. -/
theorem finish_inOrder_filtered :
    let p : Pipeline :=
      ⟨[⟨[], .aggregate [.key 0, .sum 1]⟩, ⟨[⟨0, "A"⟩], .aggregate [.key 1, .count]⟩]⟩
    let rows : List Row := [[65, 9, 49], [65, 9, 120], [66, 9, 49]].map .ofLine
    ∃ table notices, p.build (fun _ ↦ .ok fun value ↦ value.contains 65) (fun _ ↦ .sorted)
        (.new .reliable 32768) = .ok (table, notices) ∧
      let log := table.calls 0 (rows.map .push ++ [.finish])
      let finished := (table.serveAll (rows.map .push)).1.finish.1
      (table.serveAll (rows.map .push)).2.map (·.isOk) = [true, false, true] ∧
      finished.outcome = .ok () ∧
      log.map (fun call ↦ call.place) = [0, 0, 0, 0, 1, 2, 1, 1, 2, 3, 3] ∧
      (∀ place ≤ table.depth, ∃ given : List Row,
        requestsTo place log = given.map .push ++ [.finish]) ∧
      ∃ out, finished.state.writer? = some out ∧ out.buffer = #[] ∧
        out.sink.calls.back? = some .flushed := by
  intro p rows
  refine ⟨_, _, rfl, ?_⟩
  intro log finished
  have hok : finished.outcome = .ok () := by decide +kernel
  have hfinished := (@finish_inOrder (fun _ ↦ .ok fun value ↦ value.contains 65)
    (fun _ ↦ .sorted) (.new .reliable 32768) _ _ p _ rfl rows).2.2.2 hok
  exact ⟨by decide +kernel, hok, by decide +kernel, hfinished⟩

end Pipeline

end Rollup
