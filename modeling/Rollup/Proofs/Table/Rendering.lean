import Rollup.Proofs.Table.Columns
import Rollup.Proofs.Table.Grouping
import Rollup.Table.Basic

/-!
# What the groups of a stage look like

When the groups are rendered there is one for every tuple that rows have
(`ordered_tuples`), in some order.  The row for a tuple shows the tuple in the
key columns, and in the columns of every aggregate what the rows of this tuple
come to (`Line`), whatever was rendered before (`Fills`) and whichever table
takes the rows (`emit_fills`).
-/

namespace Rollup

open Outcome Aggregator

/-- What a slot prints for a group. -/
def Slot.entries (slot : Slot) (buffer : Buffer) : Except Error (List (Nat × Bytes)) :=
  slot.held buffer >>= slot.aggregator.results

/-- The slots print one after the other. -/
theorem Bundle.print_eq (b : Bundle) (buffer : Buffer) (columns : Columns) :
    b.print buffer columns = Step.each (fun columns slot ↦ match slot.entries buffer with
      | .error e => .failed columns e
      | .ok entries => columns.putAll entries) b.slots columns := by
  refine Step.each_congr (fun slot _ columns ↦ ?_) columns
  rw [Slot.entries, Slot.held]
  cases buffer.read slot.offset slot.size <;> rfl

/-- What slots print, one after the other, is what all of them print. -/
theorem Bundle.print_entries {slots : List Slot} {shares : List (List (Nat × Bytes))}
    {buffer : Buffer}
    (h : List.Forall₂ (fun slot entries ↦ slot.entries buffer = .ok entries) slots shares)
    (capacity : Nat) (columns : Columns) :
    (Bundle.mk slots capacity).print buffer columns = columns.putAll shares.flatten := by
  rw [Bundle.print_eq, Columns.putAll, ← Step.each_flatten]
  refine Step.each_congr₂ (h.imp fun slot entries hentries columns ↦ ?_) columns
  rw [hentries]
  rfl

namespace Grouping

/-! ## One group for each tuple -/

variable {g : Grouping} {slots : List Slot} {rows : List Row} {tuples : List (List Bytes)}

theorem mem_tuples_iff {keys : List Key} (h : rows.mapM (tuple keys) = .ok tuples)
    {t : List Bytes} : t ∈ tuples ↔ ∃ row ∈ rows, tuple keys row = .ok t := by
  induction rows generalizing tuples with
  | nil =>
    cases h
    simp
  | cons row rows ih =>
    obtain ⟨u, us, hu, hus, rfl⟩ := mapM_cons_eq_ok.1 h
    rw [List.mem_cons, ih hus, List.exists_mem_cons_iff, hu]
    exact or_congr_left ⟨fun heq ↦ heq ▸ rfl, fun heq ↦ (Except.ok.inj heq).symm⟩

theorem length_of_mem_tuples {keys : List Key} (h : rows.mapM (tuple keys) = .ok tuples)
    {t : List Bytes} (ht : t ∈ tuples) : t.length = keys.length := by
  obtain ⟨row, -, hrow⟩ := (mem_tuples_iff h).1 ht
  exact length_of_tuple hrow

/-- There is a group with this code exactly if there is a tuple with it. -/
theorem mem_groups_iff [NumberReader] (h : Tracks g slots (coded g.keys rows))
    (htuples : rows.mapM (tuple g.keys) = .ok tuples) (k : Bytes) :
    k ∈ g.groups ↔ ∃ t ∈ tuples, code t = .ok k := by
  rw [h.mem_iff, coded, ne_eq, List.filter_eq_nil_iff]
  simp only [hasCode_iff, keyOf_eq_ok, not_forall, not_not]
  constructor
  · rintro ⟨row, hrow, t, ht, hk⟩
    exact ⟨t, (mem_tuples_iff htuples).2 ⟨row, hrow, ht⟩, hk⟩
  · rintro ⟨t, ht, hk⟩
    obtain ⟨row, hrow, htuple⟩ := (mem_tuples_iff htuples).1 ht
    exact ⟨row, hrow, t, htuple, hk⟩

/-- The entry is the group of the tuple. -/
def IsGroup (g : Grouping) (t : List Bytes) (entry : Bytes × Buffer) : Prop :=
  t.length = g.keys.length ∧ code t = .ok entry.1 ∧ g.groups[entry.1]? = some entry.2

theorem exists_tuples {ks : List Bytes} (h : ∀ k ∈ ks, ∃ t ∈ tuples, code t = .ok k) :
    ∃ ts, ts.map code = ks.map .ok ∧ ts ⊆ tuples := by
  induction ks with
  | nil => exact ⟨[], rfl, List.nil_subset _⟩
  | cons k ks ih =>
    obtain ⟨t, ht, hk⟩ := h k List.mem_cons_self
    obtain ⟨ts, hts, hsub⟩ := ih fun k' hk' ↦ h k' (List.mem_cons_of_mem _ hk')
    exact ⟨t :: ts, by rw [List.map_cons, List.map_cons, hk, hts], List.cons_subset.2 ⟨ht, hsub⟩⟩

theorem forall₂_isGroup {ks : List Bytes} {ts : List (List Bytes)} (h : ts.map code = ks.map .ok)
    (hlength : ∀ t ∈ ts, t.length = g.keys.length) (hmem : ∀ k ∈ ks, k ∈ g.groups) :
    List.Forall₂ (IsGroup g) ts
      (ks.filterMap fun k ↦ g.groups[k]?.map fun buffer ↦ (k, buffer)) := by
  induction ks generalizing ts with
  | nil =>
    rw [List.map_eq_nil_iff.1 h]
    exact .nil
  | cons k ks ih =>
    obtain ⟨t, ts, rfl, hk, hts⟩ := List.map_eq_cons_iff.1 h
    rw [List.forall_mem_cons] at hlength hmem
    obtain ⟨buffer, hbuffer⟩ :=
      Option.isSome_iff_exists.1 (Std.TreeMap.mem_iff_isSome_getElem?.1 hmem.1)
    rw [List.filterMap_cons_some (by rw [hbuffer]; rfl)]
    exact .cons ⟨hlength.1, hk, hbuffer⟩ (ih hts hlength.2 hmem.2)

/-- No group is rendered twice. -/
theorem nodup_ordered (g : Grouping) (order : GroupOrder) :
    ((g.ordered order).map Prod.fst).Nodup := by
  have hkeys : (order.arrange g.groups.keys).Nodup :=
    (order.perm _).nodup_iff.2 Std.TreeMap.nodup_keys
  apply List.pairwise_map.2
  refine List.Pairwise.filterMap _ ?_ hkeys
  intro k k' hne entry hentry entry' hentry'
  obtain ⟨buffer, -, rfl⟩ := Option.map_eq_some_iff.1 hentry
  obtain ⟨buffer', -, rfl⟩ := Option.map_eq_some_iff.1 hentry'
  exact hne

/-- Groups have different tuples. -/
theorem nodup_of_isGroup {ts : List (List Bytes)} {order : GroupOrder}
    (h : List.Forall₂ (IsGroup g) ts (g.ordered order)) : ts.Nodup := by
  have hcodes : ts.map code = ((g.ordered order).map Prod.fst).map .ok := by
    generalize g.ordered order = entries at h
    induction h with
    | nil => rfl
    | cons hgroup _ ih => rw [List.map_cons, List.map_cons, List.map_cons, hgroup.2.1, ih]
  refine List.Nodup.of_map code ?_
  rw [hcodes]
  exact (nodup_ordered g order).map fun _ _ ↦ Except.ok.inj

/-- The groups are rendered in some order of the tuples, each of which has one. -/
theorem ordered_tuples [NumberReader] (h : Tracks g slots (coded g.keys rows))
    (htuples : rows.mapM (tuple g.keys) = .ok tuples)
    (hcodes : ∀ t ∈ tuples, ∃ k, code t = .ok k) (order : GroupOrder) :
    ∃ ts, ts.Perm tuples.dedup ∧ ts.length = g.size ∧
      List.Forall₂ (IsGroup g) ts (g.ordered order) := by
  have hmem (k : Bytes) : k ∈ order.arrange g.groups.keys ↔ ∃ t ∈ tuples, code t = .ok k := by
    rw [(order.perm _).mem_iff, Std.TreeMap.mem_keys, mem_groups_iff h htuples]
  obtain ⟨ts, hts, hsub⟩ := exists_tuples fun k hk ↦ (hmem k).1 hk
  have hlength : ∀ t ∈ ts, t.length = g.keys.length :=
    fun t ht ↦ length_of_mem_tuples htuples (hsub ht)
  have hgroups : List.Forall₂ (IsGroup g) ts (g.ordered order) :=
    forall₂_isGroup hts hlength fun k hk ↦ (mem_groups_iff h htuples k).2 ((hmem k).1 hk)
  have hall : tuples ⊆ ts := by
    intro t ht
    obtain ⟨k, hk⟩ := hcodes t ht
    have hin : Except.ok k ∈ ts.map code := by
      rw [hts]
      exact List.mem_map_of_mem ((hmem k).2 ⟨t, ht, hk⟩)
    obtain ⟨u, hu, huk⟩ := List.mem_map.1 hin
    rwa [code_inj ((length_of_mem_tuples htuples ht).trans (hlength u hu).symm) hk huk]
  refine ⟨ts, ?_, ?_, hgroups⟩
  · refine (List.perm_ext_iff_of_nodup (nodup_of_isGroup hgroups) (List.nodup_dedup _)).2 fun t ↦ ?_
    rw [List.mem_dedup]
    exact ⟨fun ht ↦ hsub ht, fun ht ↦ hall ht⟩
  · rw [← List.length_map code, hts, List.length_map, (order.perm _).length_eq,
      Std.TreeMap.length_keys]
    rfl

/-! ## The row of a group -/

/-- The aggregates of some slots. -/
def aggregatesOf (slots : List Slot) : List Aggregate :=
  slots.map fun slot ↦ slot.aggregator.aggregate

/-- The columns of a stage, those of the keys first. -/
def columnsOf (keys : List Key) (aggregates : List Aggregate) : List Nat :=
  keys.map Key.column ++ aggregates.flatMap Aggregate.columns

/-- The columns are different ones, and the row is wide enough for them. -/
structure Fits (keys : List Key) (aggregates : List Aggregate) (width : Nat) : Prop where
  nodup : (columnsOf keys aggregates).Nodup
  lt_width : ∀ column ∈ columnsOf keys aggregates, column < width

/-- Nothing stands in columns that the stage does not fill. -/
structure Ready (keys : List Key) (aggregates : List Aggregate) (width : Nat) (columns : Columns) :
    Prop where
  size_eq : columns.size = width
  blank : columns.BlankOutside (columnsOf keys aggregates)

section

variable {keys : List Key} {aggregates : List Aggregate} {width : Nat} {columns : Columns}
  {entries : List (Nat × Bytes)}

/-- Entries for the columns of the stage replace all that stands in columns that are ready. -/
theorem Ready.putAll_eq (h : Ready keys aggregates width columns)
    (hfits : Fits keys aggregates width)
    (hcolumns : entries.map Prod.fst = columnsOf keys aggregates) :
    columns.putAll entries = .done (Columns.row width entries).toArray := by
  rw [← h.size_eq]
  refine Columns.putAll_of_blankOutside ?_ ?_ ?_
  · rw [hcolumns]
    exact h.blank
  · rw [hcolumns]
    exact hfits.nodup
  · rw [hcolumns, h.size_eq]
    exact hfits.lt_width

theorem ready_row (hcolumns : entries.map Prod.fst = columnsOf keys aggregates) (width : Nat) :
    Ready keys aggregates width (Columns.row width entries).toArray := by
  constructor
  · simp [Columns.row]
  · rw [← hcolumns]
    exact Columns.blankOutside_row width _

end

/-- The columns become this row for the group, whatever group they were filled for before. -/
structure Fills (g : Grouping) (bundle : Bundle) (width : Nat) (entry : Bytes × Buffer)
    (line : List Bytes) : Prop where
  ready : Ready g.keys (aggregatesOf bundle.slots) width line.toArray
  fill_eq : ∀ columns, Ready g.keys (aggregatesOf bundle.slots) width columns →
    g.fill bundle columns entry = .done line.toArray

theorem fills_row {bundle : Bundle} {width : Nat} {entry : Bytes × Buffer}
    {entries : List (Nat × Bytes)}
    (hfits : Fits g.keys (aggregatesOf bundle.slots) width)
    (hcolumns : entries.map Prod.fst = columnsOf g.keys (aggregatesOf bundle.slots))
    (hfill : ∀ columns, g.fill bundle columns entry = columns.putAll entries) :
    Fills g bundle width entry (Columns.row width entries) where
  ready := ready_row hcolumns width
  fill_eq columns hready := (hfill columns).trans (hready.putAll_eq hfits hcolumns)

/-- For every aggregate, what the rows of a group come to. -/
def Shares [NumberReader] (rows : List Row) : List Aggregate → List (List (Nat × Bytes)) → Prop :=
  List.Forall₂ fun aggregate entries ↦ aggregate.Prints rows entries

/-- The row of a tuple shows the tuple, and what the rows of this tuple come to. -/
def Line [NumberReader] (keys : List Key) (aggregates : List Aggregate) (width : Nat)
    (rows : List Row) (t line : List Bytes) : Prop :=
  ∃ shares, Shares (members keys t rows) aggregates shares ∧
    line = Columns.row width ((keys.map Key.column).zip t ++ shares.flatten)

theorem columns_flatten {aggregates : List Aggregate} {shares : List (List (Nat × Bytes))}
    (h : List.Forall₂ (fun aggregate entries ↦ entries.map Prod.fst = aggregate.columns)
      aggregates shares) :
    shares.flatten.map Prod.fst = aggregates.flatMap Aggregate.columns := by
  induction h with
  | nil => rfl
  | cons hcolumns _ ih =>
    rw [List.flatten_cons, List.map_append, List.flatMap_cons, hcolumns, ih]

variable [NumberReader]

theorem Shares.columns_eq {aggregates : List Aggregate} {shares : List (List (Nat × Bytes))}
    (h : Shares rows aggregates shares) :
    shares.flatten.map Prod.fst = aggregates.flatMap Aggregate.columns :=
  columns_flatten (h.imp fun _ _ hprints ↦ hprints.columns_eq)

/-- A slot prints what the rows of a group come to. -/
theorem SlotTracks.exists_entries {slot : Slot} {groups : Std.TreeMap Bytes Buffer}
    {past : Bytes → List Row} {k : Bytes} {buffer : Buffer} (h : SlotTracks slot groups past)
    (hk : groups[k]? = some buffer) :
    ∃ entries, slot.entries buffer = .ok entries ∧
      slot.aggregator.aggregate.Prints (past k) entries := by
  obtain ⟨memories, hknows, hrows⟩ := h
  obtain ⟨s, hheld, hshows⟩ := hknows.shows hk
  exact ⟨_, bind_eq_ok.2 ⟨s, hheld, hshows.results_eq⟩,
    (Memory.tells_of_ofRows (hrows k (mem_of_some hk))).prints⟩

/-- Each aggregate prints what it recalls. -/
theorem print_ok {groups : Std.TreeMap Bytes Buffer} {past : Bytes → List Row} {k : Bytes}
    {buffer : Buffer} (hk : groups[k]? = some buffer) {slots : List Slot}
    (h : ∀ slot ∈ slots, SlotTracks slot groups past) (capacity : Nat) :
    ∃ shares, Shares (past k) (aggregatesOf slots) shares ∧
      ∀ columns,
        (Bundle.mk slots capacity).print buffer columns = columns.putAll shares.flatten := by
  obtain ⟨shares, hshares⟩ := exists_forall₂ fun slot hslot ↦ (h slot hslot).exists_entries hk
  refine ⟨shares, ?_, Bundle.print_entries (hshares.imp fun _ _ h ↦ h.1) capacity⟩
  exact List.forall₂_map_left_iff.2 (hshares.imp fun _ _ h ↦ h.2)

theorem columns_of_shares {keys : List Key} {aggregates : List Aggregate} {t : List Bytes}
    {shares : List (List (Nat × Bytes))} (hlength : t.length = keys.length)
    (h : Shares rows aggregates shares) :
    ((keys.map Key.column).zip t ++ shares.flatten).map Prod.fst = columnsOf keys aggregates := by
  rw [List.map_append, h.columns_eq, List.map_fst_zip (by simp [hlength]), columnsOf]

/-- Filling the columns writes the tuple and what the rows of this tuple come to. -/
theorem fill_eq {bundle : Bundle} {t : List Bytes} {entry : Bytes × Buffer}
    (h : Tracks g bundle.slots (coded g.keys rows)) (hentry : IsGroup g t entry) :
    ∃ shares, Shares (members g.keys t rows) (aggregatesOf bundle.slots) shares ∧
      ∀ columns, g.fill bundle columns entry =
        columns.putAll ((g.keys.map Key.column).zip t ++ shares.flatten) := by
  obtain ⟨hlength, hcode, hbuffer⟩ := hentry
  obtain ⟨shares, hshares, hprint⟩ := print_ok hbuffer h.tracks bundle.capacity
  rw [coded_eq_members hlength hcode] at hshares
  refine ⟨shares, hshares, fun columns ↦ ?_⟩
  rw [fill, keyColumns_of_code hlength hcode, Columns.putAll, Step.each_append]
  exact congrArg (Step.andThen _) (funext hprint)

/-- The columns show the group, and nothing of the group before. -/
theorem fill_ok {bundle : Bundle} {width : Nat} {t : List Bytes} {entry : Bytes × Buffer}
    (h : Tracks g bundle.slots (coded g.keys rows)) (hentry : IsGroup g t entry)
    (hfits : Fits g.keys (aggregatesOf bundle.slots) width) :
    ∃ line, Line g.keys (aggregatesOf bundle.slots) width rows t line ∧
      Fills g bundle width entry line := by
  obtain ⟨shares, hshares, hfill⟩ := fill_eq h hentry
  exact ⟨_, ⟨shares, hshares, rfl⟩, fills_row hfits (columns_of_shares hentry.1 hshares) hfill⟩

end Grouping

/-! ## Handing the rows on -/

variable [NumberReader]

namespace Table

open Grouping (coded Fits Ready Fills Line IsGroup Tracks aggregatesOf)

/-- Gives a table some rows, one after the other. -/
def feed (lines : List (List Bytes)) (next : Table) : Step Error Table :=
  Step.each push (lines.map Row.ofFields) next

/-- Gives a table some rows and tells it that there are no more. -/
def handOn (lines : List (List Bytes)) (next : Table) : Step Error Table :=
  (feed lines next).andThen fun next ↦ next.finish.1

variable {stage : GroupStage} {rows : List Row} {width : Nat}

theorem emitGroup_eq {columns : Columns} {next : Table} {entry : Bytes × Buffer} {line : List Bytes}
    (h : stage.grouping.fill stage.bundle columns entry = .done line.toArray) :
    emitGroup stage (columns, next) entry =
      (next.push (.ofFields line)).map fun next ↦ (line.toArray, next) := by
  rw [emitGroup, h]
  rfl

/-- The rows for the groups are handed on one after the other. -/
theorem emit_fills {entries : List (Bytes × Buffer)} {lines : List (List Bytes)}
    (h : List.Forall₂ (Fills stage.grouping stage.bundle width) entries lines) {columns : Columns}
    (hready : Ready stage.grouping.keys (aggregatesOf stage.bundle.slots) width columns)
    (next : Table) :
    ∃ columns', Ready stage.grouping.keys (aggregatesOf stage.bundle.slots) width columns' ∧
      Step.each (emitGroup stage) entries (columns, next) =
        (feed lines next).map fun next ↦ (columns', next) := by
  induction h generalizing columns next with
  | nil => exact ⟨columns, hready, rfl⟩
  | @cons entry line entries lines hfills _ ih =>
    rw [Step.each_cons, emitGroup_eq (hfills.fill_eq columns hready), feed, List.map_cons,
      Step.each_cons]
    cases hpush : (next.push (.ofFields line)).outcome with
    | error e =>
      rw [Step.map_andThen_of_error hpush, Step.andThen_of_error hpush]
      exact ⟨line.toArray, hfills.ready, rfl⟩
    | ok u =>
      rw [Step.map_andThen_of_ok hpush, Step.andThen_of_ok hpush]
      exact ih hfills.ready _

/-- The rows for the groups, which do not depend on the table that takes them. -/
theorem emit_ok (h : Tracks stage.grouping stage.bundle.slots (coded stage.grouping.keys rows))
    (hfits : Fits stage.grouping.keys (aggregatesOf stage.bundle.slots) width)
    {ts : List (List Bytes)} {entries : List (Bytes × Buffer)}
    (hentries : List.Forall₂ (IsGroup stage.grouping) ts entries) :
    ∃ lines, List.Forall₂
        (Line stage.grouping.keys (aggregatesOf stage.bundle.slots) width rows) ts lines ∧
      ∀ columns next, Ready stage.grouping.keys (aggregatesOf stage.bundle.slots) width columns →
        ∃ columns', Step.each (emitGroup stage) entries (columns, next) =
          (feed lines next).map fun next ↦ (columns', next) := by
  obtain ⟨lines, hlines, hfills⟩ := forall₂_between hentries fun t entry hentry ↦
    Grouping.fill_ok h hentry hfits
  refine ⟨lines, hlines.flip, fun columns next hready ↦ ?_⟩
  obtain ⟨columns', -, hemit⟩ := emit_fills hfills.flip hready next
  exact ⟨columns', hemit⟩

end Table

end Rollup
