import Rollup.Number.Standard
import Rollup.Proofs.Table.Alike

/-!
# A finished chain is as good as new

A chain that has finished with success has no groups and nothing in its buffer, whatever else
is left in it (`Table.Cleared`, `cleared_finish`).  It is then like the chain that it is when
renewed (`Table.alike_renewed`), and this is the chain as it was built, also for other orders
of groups and another writer (`Pipeline.build_renewed`).  So it can be used again
(`Pipeline.reused_eq_fresh`).
-/

namespace Rollup

open Outcome

/-! ## Chains that have finished -/

namespace Table

variable {table next : Table} {threshold : Nat} {orders : Nat → GroupOrder}

/-- There are no groups, and nothing waits to be written. -/
def Cleared : Table → Prop
  | .writer out | .passthrough out => out.buffer = #[]
  | .recorder _ => True
  | .filtered _ _ inner => inner.Cleared
  | .projection _ _ next => next.Cleared
  | .grouped stage _ next => stage.grouping.groups = ∅ ∧ next.Cleared

theorem cleared_finish [NumberReader] (hok : table.finish.1.outcome = .ok ()) :
    table.finish.1.state.Cleared := by
  induction table using finish.induct with
  | case1 out =>
    rw [finish] at hok ⊢
    exact (out.flush_received.2.2 hok).1
  | case2 out =>
    rw [finish] at hok ⊢
    exact (out.flush_received.2.2 hok).1
  | case3 arrivals =>
    rw [finish]
    trivial
  | case4 tests dropped inner ih =>
    rw [finish] at hok ⊢
    exact ih hok
  | case5 fields columns next ih =>
    rw [finish] at hok ⊢
    exact ih hok
  | case6 stage columns next emitting e hemitting =>
    rw [finish_grouped, hemitting] at hok
    cases hok
  | case7 stage columns next emitting u hemitting hdepth ih =>
    rw [finish_grouped, hemitting] at hok ⊢
    exact ⟨rfl, ih hok⟩

/-! ## Other orders -/

theorem orderly_reorder (h : table.Orderly threshold) (orders : Nat → GroupOrder) (rank : Nat) :
    (table.reorder orders rank).Orderly threshold := by
  induction table generalizing rank with
  | writer out => exact h
  | passthrough out => exact h
  | recorder arrivals => exact h.elim
  | filtered tests dropped inner ih => exact ih h rank
  | projection fields columns next ih => exact ⟨h.1, ih h.2 rank⟩
  | grouped stage columns next ih => exact ⟨h.1.reorder (orders rank), ih h.2 (rank + 1)⟩

theorem reorder_renewed (table : Table) (orders : Nat → GroupOrder) (out : Writer) (rank : Nat) :
    (table.renewed orders out rank).reorder orders rank = table.renewed orders out rank := by
  induction table generalizing rank with
  | writer | passthrough | recorder => rfl
  | filtered tests dropped inner ih => rw [renewed, reorder, ih]
  | projection fields columns next ih => rw [renewed, reorder, ih]
  | grouped stage columns next ih =>
    rw [renewed, reorder, ih]
    rfl

end Table

/-! ## Renewed chains -/

/-- Without groups, a slot can do without what it has kept. -/
theorem Slot.twin_renewed {slot : Slot} {memories : Bytes → Memory}
    (h : Grouping.Knows slot ∅ memories) : slot.Twin ∅ ∅ slot.renewed where
  place_eq := rfl
  knows := ⟨memories, h, Grouping.knows_new _ _ _ memories⟩
  drawn_le := ⟨Nat.zero_le _, Nat.zero_le _⟩

theorem GroupStage.twin_renewed {stage : GroupStage} {columns : Columns}
    (h : stage.Orderly columns) (hgroups : stage.grouping.groups = ∅) (order : GroupOrder) :
    GroupStage.Twin { stage with order } (stage.renewed order) where
  keys_eq := rfl
  order_eq := rfl
  capacity_eq := rfl
  mem_iff k := by
    dsimp only
    rw [hgroups]
    rfl
  slots := by
    dsimp only
    rw [hgroups]
    refine List.forall₂_map_right_iff.2 (List.forall₂_same.2 fun slot hslot ↦ ?_)
    obtain ⟨memories, hknows⟩ := (h.intact.slots slot hslot).knows
    exact Slot.twin_renewed (hgroups ▸ hknows)

/-- A chain that has finished cannot be told apart from a renewed one. -/
theorem Table.alike_renewed {table : Table} {threshold : Nat} (h : table.Orderly threshold)
    (hcleared : table.Cleared) (orders : Nat → GroupOrder) (behaviour : SinkBehaviour)
    (rank : Nat) : ∃ sink, table.sink? = some sink ∧
      Alike sink.received (table.reorder orders rank)
        (table.renewed orders (.new behaviour threshold) rank) := by
  have hout {out : Writer} (hbuffer : out.buffer = #[]) :
      out.Alike out.sink.received (.new behaviour threshold) :=
    ⟨hbuffer, (List.append_nil _).symm⟩
  induction table generalizing rank with
  | writer out => exact ⟨_, rfl, .writer (hout hcleared)⟩
  | passthrough out => exact ⟨_, rfl, .passthrough (hout hcleared)⟩
  | recorder arrivals => exact h.elim
  | filtered tests dropped inner ih =>
    obtain ⟨sink, hsink, halike⟩ := ih h hcleared rank
    exact ⟨sink, hsink, .filtered halike⟩
  | projection fields columns next ih =>
    obtain ⟨sink, hsink, halike⟩ := ih h.2 hcleared rank
    exact ⟨sink, hsink, .projection halike⟩
  | grouped stage columns next ih =>
    obtain ⟨sink, hsink, halike⟩ := ih h.2 hcleared.2 (rank + 1)
    refine ⟨sink, hsink, .grouped (GroupStage.twin_renewed h.1 hcleared.1 _) ?_ halike⟩
    exact Array.size_replicate

/-! ## Chains that were built -/

theorem Bundle.renewed_of_fresh {bundle : Bundle} (h : bundle.Fresh) : bundle.renewed = bundle := by
  have hslots : bundle.slots.map Slot.renewed = bundle.slots.map id := by
    refine List.map_congr_left fun slot hslot ↦ ?_
    rw [Slot.renewed, ← h.new slot hslot]
    rfl
  rw [renewed, hslots, List.map_id]

theorem Table.withFilters_renewed {engine : PatternEngine} {filters : List Filter}
    {inner table : Table} (h : withFilters engine filters inner = .ok table)
    (orders : Nat → GroupOrder) (out : Writer) (rank : Nat) :
    withFilters engine filters (inner.renewed orders out rank) =
      .ok (table.renewed orders out rank) := by
  rw [withFilters] at h ⊢
  split at h
  · rename_i hnone
    cases h
    rw [if_pos hnone]
  · rename_i hsome
    rw [if_neg hsome]
    dsimp only at h ⊢
    split at h
    · cases h
    · cases h
      rfl

namespace Stage

variable {engine : PatternEngine} {order : GroupOrder} {stage : Stage} {next table : Table}
  {notices : List Notice}

theorem buildBody_renewed (h : buildBody stage.body order next = .ok (table, notices))
    (orders : Nat → GroupOrder) (out : Writer) (rank : Nat) :
    buildBody stage.body (orders rank)
        (next.renewed orders out (if stage.isAggregating then rank + 1 else rank)) =
      .ok (table.renewed orders out rank, notices) := by
  obtain ⟨filters, body⟩ := stage
  cases body with
  | project fields =>
    cases fields with
    | nil =>
      dsimp only [buildBody] at h
      split at h
      · cases h
        rfl
      · cases h
    | cons field fields =>
      cases h
      rfl
  | aggregate components =>
    obtain ⟨a, bundle, -, hfresh, -, rfl, hall⟩ := buildBody_eq_ok h
    have hwidth : (Columns.blank a.width).size = a.width := Array.size_replicate
    refine (hall _ _).trans ?_
    rw [Table.grouping, Table.grouping, Table.renewed, GroupStage.renewed, hwidth,
      Bundle.renewed_of_fresh hfresh]
    rfl

theorem build_renewed (h : stage.build engine order next = .ok (table, notices))
    (orders : Nat → GroupOrder) (out : Writer) (rank : Nat) :
    stage.build engine (orders rank)
        (next.renewed orders out (if stage.isAggregating then rank + 1 else rank)) =
      .ok (table.renewed orders out rank, notices) := by
  obtain ⟨⟨body, others⟩, hbody, h⟩ := bind_eq_ok.1 h
  obtain ⟨filtered, hfiltered, h⟩ := bind_eq_ok.1 h
  cases h
  rw [build, buildBody_renewed hbody, ok_bind]
  dsimp only
  rw [Table.withFilters_renewed hfiltered]
  rfl

end Stage

namespace Pipeline

variable {engine : PatternEngine} {orders : Nat → GroupOrder} {p : Pipeline} {table : Table}
  {notices : List Notice} {stages : List Stage} {out : Writer} {rank : Nat}

theorem buildStages_renewed
    (h : buildStages engine orders (.writer out) rank stages = .ok (table, notices))
    (orders' : Nat → GroupOrder) (out' : Writer) :
    buildStages engine orders' (.writer out') rank stages =
      .ok (table.renewed orders' out' rank, notices) := by
  induction stages generalizing rank table notices with
  | nil =>
    cases h
    rfl
  | cons stage rest ih =>
    obtain ⟨⟨next, behind⟩, hnext, h⟩ := bind_eq_ok.1 h
    obtain ⟨⟨built, others⟩, hbuilt, h⟩ := bind_eq_ok.1 h
    cases h
    rw [buildStages, ih hnext, ok_bind]
    dsimp only
    rw [Stage.build_renewed hbuilt]
    rfl

/-- A chain that is renewed is the one that is built for these orders of groups and this
writer. -/
theorem build_renewed (h : p.build engine orders out = .ok (table, notices))
    (orders' : Nat → GroupOrder) (out' : Writer) :
    p.build engine orders' out' = .ok (table.renewed orders' out' 0, notices) := by
  obtain ⟨⟨built, others⟩, hbuilt, h⟩ := bind_eq_ok.1 h
  cases h
  rw [build, buildStages_renewed hbuilt]
  rfl

theorem orderly_build (h : p.build engine orders out = .ok (table, notices))
    (hsink : out.sink.behaviour.NeverFails) : table.Orderly out.threshold := by
  refine of_build (p := fun _ table ↦ table.Orderly out.threshold) ⟨hsink, rfl⟩ ?_ id h
  rintro ⟨filters, body⟩ stages order next table hnext hbuilt
  cases hbuilt with
  | passthrough hout => rwa [hout] at hnext
  | projection => exact ⟨by simp [Columns.blank], hnext⟩
  | grouping hfrom hfresh hroom hsame =>
    exact ⟨GroupStage.orderly_new hfresh hroom (hsame.fits (Assignment.fits_of_from hfrom)) order,
      hnext⟩

open Table

/-- A chain as it is built renders its groups in the orders for which it is built. -/
theorem reorder_build (h : p.build engine orders out = .ok (table, notices)) :
    table.reorder orders 0 = table := by
  have hsame : table.renewed orders out 0 = table :=
    congrArg Prod.fst (Except.ok.inj ((build_renewed h orders out).symm.trans h))
  rw [← hsame]
  exact reorder_renewed table orders out 0

/-- A chain that has finished with success is used again, with any orders of groups; with those
for which it was built, it is used as it is.  It answers like a chain that is built for these
orders, and writes the same bytes behind what it has written so far, as long as no stage is
given 2³² rows in all. -/
theorem reused_eq_fresh [NumberReader] {behaviour behaviour' : SinkBehaviour} {threshold : Nat}
    {first second : List Row}
    (hbuild : p.build engine orders (.new behaviour threshold) = .ok (table, notices))
    (hsink : behaviour.NeverFails) (hsink' : behaviour'.NeverFails)
    (hfirst : ∀ row ∈ first, row.Readable) (hsecond : ∀ row ∈ second, row.Readable)
    (hfinish : (table.serveAll (first.map .push)).1.finish.1.outcome = .ok ())
    (orders' : Nat → GroupOrder) :
    let finished := (table.serveAll (first.map .push)).1.finish.1.state
    let used := finished.reorder orders' 0
    let requests := second.map .push ++ [.finish]
    (orders' = orders → used = finished) ∧
    ((used.serveAll requests).1.Bounded →
      ∃ fresh notices', p.build engine orders' (.new behaviour' threshold) = .ok (fresh, notices') ∧
        (used.serveAll requests).2 = (fresh.serveAll requests).2 ∧
        ∃ before after further, finished.sink? = some before ∧
          (used.serveAll requests).1.sink? = some after ∧
          (fresh.serveAll requests).1.sink? = some further ∧
          after.received = before.received ++ further.received) := by
  intro finished used requests
  have hfirst' : ∀ request ∈ first.map Request.push, request.Readable :=
    List.forall_mem_map.2 hfirst
  have hpushed := remains_serveAll (orderly_build hbuild hsink) hfirst'
  have hfinished := hpushed.trans (remains_finish hpushed.orderly)
  refine ⟨?_, fun hbounded ↦ ?_⟩
  · rintro rfl
    exact hfinished.reorder_eq (reorder_build hbuild)
  · have hrequests : ∀ request ∈ requests, request.Readable :=
      List.forall_mem_append.2 ⟨List.forall_mem_map.2 hsecond, List.forall_mem_singleton.2 trivial⟩
    obtain ⟨before, hbefore, halike⟩ :=
      alike_renewed hfinished.orderly (cleared_finish hfinish) orders' behaviour' 0
    rw [hfinished.renewed_eq] at halike
    have hfresh := build_renewed hbuild orders' (.new behaviour' threshold)
    have horderly := orderly_build hfresh hsink'
    obtain ⟨houtcomes, hlast⟩ := halike.serveAll (orderly_reorder hfinished.orderly orders' 0)
      horderly hrequests hbounded
    obtain ⟨after, further, hafter, hfurther, hreceived⟩ := hlast.received
    exact ⟨_, _, hfresh, houtcomes, before, after, further, hbefore, hafter, hfurther, hreceived⟩

open Standard

/-- In both runs a row is refused after the first aggregator of a stage has taken it in.  From
the first run, numbers of groups, values and columns are left. -/
theorem reused_eq_fresh_refused :
    let p : Pipeline :=
      ⟨[⟨[], .aggregate [.key 0, .distinct 1, .sum 2]⟩, ⟨[], .aggregate [.distinct 1, .sum 2]⟩]⟩
    let backwards : GroupOrder := ⟨List.reverse, List.reverse_perm⟩
    let first : List Row :=
      [[97, 9, 120, 9, 49], [97, 9, 121, 9, 63], [98, 9, 120, 9, 50]].map .ofLine
    let second : List Row :=
      [[97, 9, 121, 9, 53], [97, 9, 122, 9, 54], [98, 9, 63, 9, 63],
        [99, 9, 120, 9, 55]].map .ofLine
    ∃ table notices, p.build (fun _ ↦ .ok fun _ ↦ true) (fun _ ↦ .sorted)
        (.new .reliable 32768) = .ok (table, notices) ∧
      (table.serveAll (first.map .push)).2.map (·.isOk) = [true, false, true] ∧
      let finished := (table.serveAll (first.map .push)).1.finish.1.state
      let used := finished.reorder (fun _ ↦ backwards) 0
      let requests := second.map .push ++ [.finish]
      (used.serveAll requests).2.map (·.isOk) = [true, true, false, true, true] ∧
      ∃ fresh notices', p.build (fun _ ↦ .ok fun _ ↦ true) (fun _ ↦ backwards)
          (.new .reliable 32768) = .ok (fresh, notices') ∧
        (used.serveAll requests).2 = (fresh.serveAll requests).2 ∧
        ∃ before after further, finished.sink? = some before ∧
          (used.serveAll requests).1.sink? = some after ∧
          (fresh.serveAll requests).1.sink? = some further ∧
          after.received = before.received ++ further.received := by
  intro p backwards first second
  refine ⟨_, _, rfl, by decide +kernel, ?_⟩
  intro finished used requests
  refine ⟨by decide +kernel, ?_⟩
  have hbounded : (used.serveAll requests).1.Bounded := by
    simp only [Table.Bounded]
    decide +kernel
  have hreadable (lines : List Bytes) : ∀ row ∈ lines.map Row.ofLine, row.Readable :=
    List.forall_mem_map.2 fun line _ ↦ Row.readable_ofLine line
  exact (@reused_eq_fresh (fun _ ↦ .ok fun _ ↦ true) (fun _ ↦ .sorted) p _ _ _ .reliable .reliable
    32768 first second rfl SinkBehaviour.neverFails_reliable SinkBehaviour.neverFails_reliable
    (hreadable _) (hreadable _) (by decide +kernel) (fun _ ↦ backwards)).2 hbounded

end Pipeline

end Rollup
