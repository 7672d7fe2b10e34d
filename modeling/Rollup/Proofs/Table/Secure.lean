import Rollup.Proofs.Table.Ordinary
import Rollup.Proofs.Table.Intact
import Rollup.Proofs.Table.Room

/-!
# Stages of groups that access nothing out of range

`GroupStage.Secure` says what all accesses of a stage of groups rely on:

| Access | Relies on |
|---|---|
| a column | a row of the stage has all the columns that the stage fills |
| a state | its slot lies in the buffer, is large and aligned, and holds what the slot knows |
| a handle, a length | the slot shows a memory of every group |
| a key | every group has the code of a tuple |
| a counter | it has not counted more rows than the stage was given |

A row leaves a stage secure, whatever becomes of it (`Secure.after`).  A secure stage refuses
a row for an ordinary reason only (`Secure.ordinary_push`), and can render every group, also
if it has refused rows: the tuple in the key columns, and in the columns of each slot what the
slot prints of what it remembers (`Secure.exists_renders`).  Of which rows that is may differ
from slot to slot.  Where the columns have nothing of other rows in them, the rows that are
handed on depend on the stage alone (`Table.emitGroups_renders`).
-/

namespace Rollup

open Outcome Rollup.Bundle

open Grouping (Knows IsGroup place aggregatesOf columnsOf code)

/-! ## Slots -/

/-- The slot shows a memory of every group, and has counted so many rows of it at most. -/
def Slot.Counts (rows : Nat) (groups : Std.TreeMap Bytes Buffer) (slot : Slot) : Prop :=
  ∃ memories, Knows slot groups memories ∧ ∀ k, (memories k).rowCount ≤ rows

namespace Slot

variable {slot : Slot} {groups : Std.TreeMap Bytes Buffer} {rows : Nat} {row : Row}

theorem rowCount_update_le {memories : Bytes → Memory} {m : Memory}
    (h : ∀ k, (memories k).rowCount ≤ rows) (hm : m.rowCount ≤ rows + 1) (k k' : Bytes) :
    (Function.update memories k m k').rowCount ≤ rows + 1 := by
  by_cases heq : k' = k
  · rw [heq, Function.update_self]
    exact hm
  · rw [Function.update_of_ne heq]
    exact Nat.le_succ_of_le (h k')

/-- A row adds at most itself to the rows that were counted of a group. -/
theorem persists_counts [NumberReader] (rows : Nat) (row : Row) :
    GroupStage.Persists row (fun groups slot ↦ slot.Counts rows groups)
      fun groups slot ↦ slot.Counts (rows + 1) groups where
  same := fun ⟨memories, hknows, hle⟩ ↦ ⟨memories, hknows, fun k ↦ Nat.le_succ_of_le (hle k)⟩
  begun := by
    rintro groups slot slot' k old new ⟨memories, hknows, hle⟩ - hshared
    obtain ⟨m, hm, hnew⟩ := hknows.insert_of_begins hshared
    have hcount := Nat.le_trans (Memory.rowCount_start hm) (Nat.le_add_left 1 rows)
    exact ⟨_, hnew, rowCount_update_le hle hcount k⟩
  orphaned := fun ⟨memories, hknows, hle⟩ hshared ↦
    ⟨memories, hknows.of_begins hshared, fun k ↦ Nat.le_succ_of_le (hle k)⟩
  continued := by
    rintro groups slot slot' k outcome old new ⟨memories, hknows, hle⟩ hk hshared
    have hcount := Nat.le_trans (Memory.rowCount_absorb slot.aggregator.aggregate row (memories k))
      (Nat.succ_le_succ (hle k))
    exact ⟨_, (hknows.insert_of_continues hk hshared).2, rowCount_update_le hle hcount k⟩
  kept := fun ⟨memories, hknows, hle⟩ hk hheld ↦
    ⟨memories, hknows.insert_of_held_eq hk hheld, fun k ↦ Nat.le_succ_of_le (hle k)⟩

theorem ordinary_startSlot [NumberReader] {full : Prop} {capacity : Nat}
    (hroom : slot.HasRoom capacity) (hrow : row.Readable) :
    Ordinary full (startSlot slot row (.blank capacity)).outcome := by
  rw [hroom.startSlot_outcome]
  exact (Aggregator.ordinary_start slot.aggregator hrow).map

theorem ordinary_absorbSlot [NumberReader] {k : Bytes} {buffer : Buffer}
    (hcounts : slot.Counts rows groups) (hk : groups[k]? = some buffer) (hrow : row.Readable) :
    Ordinary (Aggregator.maxDistinct ≤ rows) (absorbSlot slot row buffer).outcome := by
  obtain ⟨memories, hknows, hle⟩ := hcounts
  obtain ⟨s, hheld, hshows⟩ := hknows.shows hk
  have hread : buffer.read slot.offset slot.size = .ok s := hheld
  rw [absorbSlot, hread]
  exact (Aggregator.ordinary_absorb hshows hrow).mono fun hfull ↦ Nat.le_trans hfull (hle k)

/-- What a slot remembers of a group can be printed, in its own columns. -/
theorem exists_entries {k : Bytes} {buffer : Buffer} (hcounts : slot.Counts rows groups)
    (hk : groups[k]? = some buffer) :
    ∃ entries, slot.entries buffer = .ok entries ∧
      entries.map Prod.fst = slot.aggregator.aggregate.columns := by
  obtain ⟨memories, hknows, -⟩ := hcounts
  obtain ⟨s, hheld, hshows⟩ := hknows.shows hk
  exact ⟨_, bind_eq_ok.2 ⟨s, hheld, hshows.results_eq⟩, hshows.columns_eq⟩

end Slot

/-! ## Stages of groups -/

/-- All that a stage of groups relies on, with rows of so many columns. -/
structure GroupStage.Secure (width : Nat) (stage : GroupStage) : Prop where
  placed : WellPlaced stage.bundle.slots
  capacity_eq : ∀ {k : Bytes} {buffer : Buffer}, stage.grouping.groups[k]? = some buffer →
    buffer.capacity = stage.bundle.capacity
  hasRoom : stage.bundle.HasRoom
  coded : ∀ k ∈ stage.grouping.groups, ∃ t, t.length = stage.grouping.keys.length ∧ code t = .ok k
  counts : ∀ slot ∈ stage.bundle.slots, slot.Counts stage.rows stage.grouping.groups
  column_lt : ∀ column ∈ columnsOf stage.grouping.keys (aggregatesOf stage.bundle.slots),
    column < width

/-- Filling the columns for a group writes these entries: its tuple, and what its slots
print. -/
structure GroupStage.Renders (stage : GroupStage) (entry : Bytes × Buffer)
    (entries : List (Nat × Bytes)) : Prop where
  columns_eq : entries.map Prod.fst =
    columnsOf stage.grouping.keys (aggregatesOf stage.bundle.slots)
  fill_eq : ∀ columns, stage.grouping.fill stage.bundle columns entry = columns.putAll entries
  tuple : ∃ t, IsGroup stage.grouping t entry ∧ (stage.grouping.keys.map Key.column).zip t ⊆ entries
  slots : ∀ slot ∈ stage.bundle.slots, ∃ printed, slot.entries entry.2 = .ok printed ∧
    printed ⊆ entries

namespace GroupStage

variable {stage : GroupStage} {width : Nat} {row : Row} {columns : Columns}

theorem mem_groups_after [NumberReader] (hplaced : WellPlaced stage.bundle.slots) {k : Bytes}
    (hk : k ∈ (stage.after row).grouping.groups) :
    k ∈ stage.grouping.groups ∨ Grouping.keyOf stage.grouping.keys row = .ok k := by
  have hinsert {k' : Bytes} {new : Buffer} (hkey : Grouping.keyOf stage.grouping.keys row = .ok k')
      (hk : k ∈ stage.grouping.groups.insert k' new) :
      k ∈ stage.grouping.groups ∨ Grouping.keyOf stage.grouping.keys row = .ok k := by
    rw [Std.TreeMap.mem_insert, Std.LawfulEqCmp.compare_eq_iff_eq] at hk
    rcases hk with rfl | hk
    · exact .inr hkey
    · exact .inl hk
  cases hkey : Grouping.keyOf stage.grouping.keys row with
  | error e =>
    rw [after_of_keyOf_error hkey] at hk
    exact .inl hk
  | ok k' =>
    rw [← hkey]
    obtain ⟨new, slots', ⟨old, -, -, -, hstate⟩ | ⟨-, -, -, ⟨-, hstate⟩ | ⟨-, hstate⟩⟩⟩ :=
      Grouping.push_goes hplaced hkey
    · rw [after_of_state hstate] at hk
      exact hinsert hkey hk
    · rw [after_of_state hstate] at hk
      exact hinsert hkey hk
    · rw [after_of_state hstate] at hk
      exact .inl hk

namespace Secure

/-- A row leaves a stage secure, whatever becomes of it. -/
theorem after [NumberReader] (h : stage.Secure width) (row : Row) :
    (stage.after row).Secure width := by
  obtain ⟨hplaces, hcapacity, hkeys⟩ := after_places h.placed row
  refine ⟨Grouping.wellPlaced_congr hplaces h.placed,
    fun hk ↦ (after_capacity h.placed h.capacity_eq hk).trans hcapacity.symm, ?_, fun k hk ↦ ?_,
    (Slot.persists_counts stage.rows row).after h.placed h.counts, ?_⟩
  · intro slot hslot
    have hmem : place slot ∈ stage.bundle.slots.map place := hplaces ▸ List.mem_map_of_mem hslot
    obtain ⟨before, hbefore, hplace⟩ := List.mem_map.1 hmem
    rw [hcapacity]
    exact (h.hasRoom before hbefore).congr hplace.symm
  · rw [hkeys]
    rcases mem_groups_after h.placed hk with hk | hkey
    · exact h.coded k hk
    · obtain ⟨t, ht, hcode⟩ := Grouping.keyOf_eq_ok.1 hkey
      exact ⟨t, Grouping.length_of_tuple ht, hcode⟩
  · rw [hkeys, Table.aggregatesOf_congr hplaces]
    exact h.column_lt

theorem clear (h : stage.Secure width) :
    GroupStage.Secure width { stage with grouping := stage.grouping.clear } where
  placed := h.placed
  capacity_eq hk := by simp [Grouping.clear] at hk
  hasRoom := h.hasRoom
  coded k hk := by simp [Grouping.clear] at hk
  counts slot hslot := by
    obtain ⟨memories, hknows, hle⟩ := h.counts slot hslot
    exact ⟨memories, hknows.clear memories, hle⟩
  column_lt := h.column_lt

/-- A row is refused for an ordinary reason, or because the stage has been given 2³² rows. -/
theorem ordinary_push [NumberReader] (h : stage.Secure width) (hrow : row.Readable) :
    Ordinary (¬ (stage.after row).rows < 1 <<< 32)
      (stage.grouping.push stage.bundle row).outcome := by
  have hfull (hrows : Aggregator.maxDistinct ≤ stage.rows) :
      ¬ (stage.after row).rows < 1 <<< 32 :=
    Nat.not_lt.2 (Nat.le_add_of_sub_le hrows)
  cases hkey : Grouping.keyOf stage.grouping.keys row with
  | error e =>
    rw [Grouping.push_of_keyOf_error hkey]
    rintro _ ⟨⟩
    exact Grouping.ordinary_keyOf hrow stage.grouping.keys e hkey
  | ok k =>
    obtain ⟨new, slots', ⟨old, hold, -, hgoes, -⟩ | ⟨-, -, hgoes, -⟩⟩ :=
      Grouping.push_goes h.placed hkey
    all_goals
      intro e houtcome
      rw [houtcome] at hgoes
      obtain ⟨front, -, refusing, -, behind, hslots, -, -, hrefusing, -⟩ := hgoes.of_error
      have hmem : refusing ∈ stage.bundle.slots :=
        hslots ▸ List.mem_append_right _ List.mem_cons_self
    · exact ((Slot.ordinary_absorbSlot (h.counts _ hmem) hold hrow).mono hfull) e hrefusing
    · exact Slot.ordinary_startSlot (h.hasRoom _ hmem) hrow e hrefusing

/-- A secure stage renders all its groups. -/
theorem exists_renders (h : stage.Secure width) {entry : Bytes × Buffer}
    (hentry : stage.grouping.groups[entry.1]? = some entry.2) :
    ∃ entries, stage.Renders entry entries := by
  obtain ⟨t, hlength, hcode⟩ := h.coded entry.1 (Grouping.mem_of_some hentry)
  obtain ⟨shares, hshares⟩ := exists_forall₂ fun slot hslot ↦
    Slot.exists_entries (h.counts slot hslot) hentry
  have hcolumns : shares.flatten.map Prod.fst =
      (aggregatesOf stage.bundle.slots).flatMap Aggregate.columns :=
    Grouping.columns_flatten (List.forall₂_map_left_iff.2 (hshares.imp fun _ _ h ↦ h.2))
  have hprint : ∀ columns, stage.bundle.print entry.2 columns = columns.putAll shares.flatten :=
    Bundle.print_entries (hshares.imp fun _ _ h ↦ h.1) stage.bundle.capacity
  refine ⟨(stage.grouping.keys.map Key.column).zip t ++ shares.flatten, ?_, ?_, ?_, ?_⟩
  · rw [List.map_append, hcolumns, List.map_fst_zip (by rw [List.length_map, hlength])]
    rfl
  · intro columns
    rw [Grouping.fill, Grouping.keyColumns_of_code hlength hcode, Columns.putAll, Step.each_append]
    exact congrArg (Step.andThen _) (funext hprint)
  · exact ⟨t, ⟨hlength, hcode, hentry⟩, List.subset_append_left _ _⟩
  · intro slot hslot
    obtain ⟨printed, hmem, hprinted, -⟩ := exists_of_forall₂ hshares hslot
    refine ⟨printed, hprinted, List.subset_append_of_subset_right _ fun e he ↦ ?_⟩
    exact List.mem_flatten_of_mem hmem he

/-- The columns of a secure stage can be filled for every group. -/
theorem exists_fill (h : stage.Secure width) {entry : Bytes × Buffer}
    (hentry : stage.grouping.groups[entry.1]? = some entry.2) (hsize : columns.size = width) :
    ∃ columns', stage.grouping.fill stage.bundle columns entry = .done columns' ∧
      columns'.size = width := by
  obtain ⟨entries, hrenders⟩ := h.exists_renders hentry
  have hlt : ∀ column ∈ entries.map Prod.fst, column < columns.size :=
    hrenders.columns_eq ▸ hsize ▸ h.column_lt
  obtain ⟨columns', hput, hsize'⟩ := Columns.exists_putAll hlt
  exact ⟨columns', (hrenders.fill_eq columns).trans hput, hsize'.trans hsize⟩

end Secure

end GroupStage

/-- What is rendered are groups. -/
theorem Grouping.mem_ordered {g : Grouping} {order : GroupOrder} {entry : Bytes × Buffer}
    (h : entry ∈ g.ordered order) : g.groups[entry.1]? = some entry.2 := by
  obtain ⟨k, -, hk⟩ := List.mem_filterMap.1 h
  obtain ⟨buffer, hbuffer, rfl⟩ := Option.map_eq_some_iff.1 hk
  exact hbuffer

/-! ## What a secure stage hands on -/

namespace GroupStage

open Grouping (Fits)

variable {stage : GroupStage} {width : Nat}

/-- The row that is handed on for a group. -/
def HandsOn (stage : GroupStage) (width : Nat) (entry : Bytes × Buffer) (line : List Bytes) :
    Prop :=
  ∃ entries, stage.Renders entry entries ∧ line = Columns.row width entries

theorem HandsOn.fills {entry : Bytes × Buffer} {line : List Bytes}
    (h : stage.HandsOn width entry line)
    (hfits : Fits stage.grouping.keys (aggregatesOf stage.bundle.slots) width) :
    stage.grouping.Fills stage.bundle width entry line := by
  obtain ⟨entries, hrenders, rfl⟩ := h
  exact Grouping.fills_row hfits hrenders.columns_eq hrenders.fill_eq

end GroupStage

namespace Table

open Grouping (Fits Ready)

variable {stage : GroupStage} {width : Nat}

/-- A stage that has a group, or keys, hands on a row for each of its groups.  The rows depend
on the stage alone. -/
theorem emitGroups_renders [NumberReader] (h : stage.Secure width)
    (hfits : Fits stage.grouping.keys (aggregatesOf stage.bundle.slots) width)
    (hdata : ¬ (stage.grouping.keys = [] ∧ stage.grouping.size = 0)) :
    ∃ lines, List.Forall₂ (stage.HandsOn width) (stage.grouping.ordered stage.order) lines ∧
      ∀ columns next,
        Ready stage.grouping.keys (aggregatesOf stage.bundle.slots) width columns →
          ∃ columns', Ready stage.grouping.keys (aggregatesOf stage.bundle.slots) width columns' ∧
            emitGroups stage columns next =
              (feed lines next).map fun next ↦ (columns', next) := by
  have hrows : ∀ entry ∈ stage.grouping.ordered stage.order, ∃ line,
      stage.HandsOn width entry line := by
    intro entry hentry
    obtain ⟨entries, hrenders⟩ := h.exists_renders (Grouping.mem_ordered hentry)
    exact ⟨Columns.row width entries, entries, hrenders, rfl⟩
  obtain ⟨lines, hlines⟩ := exists_forall₂ hrows
  refine ⟨lines, hlines, fun columns next hready ↦ ?_⟩
  rw [emitGroups, if_neg (by simpa using hdata)]
  exact emit_fills (hlines.imp fun _ _ hline ↦ hline.fills hfits) hready next

end Table

end Rollup
