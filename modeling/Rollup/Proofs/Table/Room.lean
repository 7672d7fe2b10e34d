import Rollup.Proofs.Table.Aggregating

/-!
# Slots have room

A state can be written to a slot that lies in the buffer, is large enough for the state, and
begins at a multiple of its alignment (`Slot.HasRoom`).  An aggregate alone has a buffer of
its own size.  In a layout a slot begins behind slots whose sizes are multiples of its own,
since all sizes are powers of two (`dvd_offset`), and so at a multiple of its alignment.
-/

namespace Rollup

open Outcome

namespace Layout

variable {all front rest slots : List SlotSize} {slot : SlotSize} {size : Nat}

/-! ## Sizes -/

theorem sizeAbove_add_sizeOf_le_totalSize (all : List SlotSize) (size : Nat) :
    sizeAbove all size + sizeOf all size ≤ totalSize all := by
  induction all with
  | nil => exact Nat.le_refl _
  | cons slot rest ih =>
    have htotal : totalSize (slot :: rest) = slot.size + totalSize rest := rfl
    rw [sizeAbove_cons, sizeOf_cons, htotal]
    split_ifs <;> omega

/-- Of two powers of two the smaller divides the larger. -/
theorem dvd_of_mem_slotSizes : ∀ small ∈ slotSizes, ∀ large ∈ slotSizes,
    small ≤ large → small ∣ large := by
  decide

theorem dvd_sizeAbove (hall : ∀ slot ∈ all, slot.size ∈ slotSizes) (h : size ∈ slotSizes) :
    size ∣ sizeAbove all size := by
  induction all with
  | nil => exact Nat.dvd_zero _
  | cons slot rest ih =>
    rw [List.forall_mem_cons] at hall
    rw [sizeAbove_cons]
    refine Nat.dvd_add ?_ (ih hall.2)
    split
    · rename_i hlt
      exact dvd_of_mem_slotSizes size h slot.size hall.1 (Nat.le_of_lt hlt)
    · exact Nat.dvd_zero _

theorem dvd_sizeOf (all : List SlotSize) (size : Nat) : size ∣ sizeOf all size := by
  induction all with
  | nil => exact Nat.dvd_zero _
  | cons slot rest ih =>
    rw [sizeOf_cons]
    refine Nat.dvd_add ?_ ih
    split
    · rename_i heq
      exact heq ▸ Nat.dvd_refl _
    · exact Nat.dvd_zero _

/-! ## Offsets -/

/-- What is right about a slot that is not faulty. -/
theorem slotFault?_eq_none (h : slotFault? slot = none) :
    slot.size ∈ slotSizes ∧ slot.align ∣ slot.size := by
  rw [slotFault?] at h
  split_ifs at h with hsize _ _ hdvd
  exact ⟨hsize, Nat.dvd_of_mod_eq_zero (not_not.1 hdvd)⟩

theorem dvd_offset (hall : ∀ slot ∈ all, slot.size ∈ slotSizes) (hslot : slot.size ∈ slotSizes)
    (front : List SlotSize) : slot.size ∣ offset all front slot :=
  Nat.dvd_add (dvd_sizeAbove hall hslot) (dvd_sizeOf front slot.size)

/-- A slot ends where the equal ones in front of it end, or before. -/
theorem offset_add_size_le (h : all = front ++ slot :: rest) :
    offset all front slot + slot.size ≤ totalSize all := by
  have hequal : sizeOf front slot.size + slot.size ≤ sizeOf all slot.size := by
    rw [h, sizeOf_append, sizeOf_cons_self]
    omega
  have htotal := sizeAbove_add_sizeOf_le_totalSize all slot.size
  rw [offset]
  omega

/-- In a layout every slot lies in the total size, at a multiple of its size and alignment. -/
theorem inside_of_ok {layout : Layout} (h : of slots = .ok layout) {o : Nat}
    (hslot : (slot, o) ∈ slots.zip layout.offsets) :
    o + slot.size ≤ layout.total ∧ slot.size ∣ o ∧ slot.align ∣ o := by
  obtain ⟨hfaults, -, rfl⟩ := of_eq_ok_iff.1 h
  obtain ⟨front, behind, hsplit, rfl⟩ := mem_zip_offsetsFrom_iff.1 hslot
  have hmem : slot ∈ slots := hsplit ▸ List.mem_append_right _ List.mem_cons_self
  obtain ⟨hsize, hdvd⟩ := slotFault?_eq_none (hfaults slot hmem)
  have hsizes : ∀ other ∈ slots, other.size ∈ slotSizes :=
    fun other hother ↦ (slotFault?_eq_none (hfaults other hother)).1
  have hoffset := dvd_offset hsizes hsize ([] ++ front)
  exact ⟨offset_add_size_le hsplit, hoffset, Nat.dvd_trans hdvd hoffset⟩

end Layout

/-! ## Bundles -/

/-- The slot lies in a buffer of so many bytes, and is large enough and aligned for its
state. -/
structure Slot.HasRoom (capacity : Nat) (slot : Slot) : Prop where
  inside : slot.offset + slot.size ≤ capacity
  large : slot.aggregator.aggregate.slotSize.size ≤ slot.size
  aligned : slot.aggregator.aggregate.slotSize.align ∣ slot.offset

/-- The state of a new group can be written to a slot that has room for it. -/
theorem Slot.HasRoom.exists_write_blank {slot : Slot} {capacity : Nat} (h : slot.HasRoom capacity)
    (s : Accumulator) :
    ∃ buffer, (Buffer.blank capacity).write slot.offset slot.size
      slot.aggregator.aggregate.slotSize s = .ok buffer := by
  rw [Buffer.write, if_pos ⟨h.inside, h.large, Nat.mod_eq_zero_of_dvd h.aligned⟩]
  exact ⟨_, rfl⟩

/-- So a slot begins a group if its aggregator does. -/
theorem Slot.HasRoom.startSlot_outcome [NumberReader] {slot : Slot} {capacity : Nat}
    (h : slot.HasRoom capacity)
    (row : Row) : (Bundle.startSlot slot row (.blank capacity)).outcome =
      verdict (slot.aggregator.start row).2 := by
  cases hstart : (slot.aggregator.start row).2 with
  | error e => rw [Bundle.startSlot_of_error hstart]; rfl
  | ok s =>
    obtain ⟨buffer, hbuffer⟩ := h.exists_write_blank s
    rw [Bundle.startSlot_of_ok hstart, Aggregator.start_aggregate, hbuffer]
    rfl

theorem Slot.HasRoom.congr {slot slot' : Slot} {capacity : Nat} (h : slot.HasRoom capacity)
    (hplace : Grouping.place slot' = Grouping.place slot) : slot'.HasRoom capacity := by
  obtain ⟨inside, large, aligned⟩ := h
  simp only [Grouping.place, Prod.mk.injEq] at hplace
  obtain ⟨haggregate, hoffset, hsize⟩ := hplace
  refine ⟨?_, ?_, ?_⟩
  · rwa [hoffset, hsize]
  · rwa [haggregate, hsize]
  · rwa [haggregate, hoffset]

/-- Every slot of the bundle has room in the buffer of a group. -/
def Bundle.HasRoom (bundle : Bundle) : Prop := ∀ slot ∈ bundle.slots, slot.HasRoom bundle.capacity

namespace Bundle

variable {aggregates : List Aggregate} {layout : Layout}

theorem hasRoom_single (aggregate : Aggregate) : (single aggregate).HasRoom :=
  List.forall_mem_singleton.2
    ⟨Nat.le_of_eq (Nat.zero_add _), Nat.le_refl aggregate.slotSize.size, Nat.dvd_zero _⟩

theorem hasRoom_ofLayout (h : Layout.of (slotSizes aggregates) = .ok layout) {capacity : Nat}
    (hcapacity : layout.total ≤ capacity) : (ofLayout aggregates layout capacity).HasRoom := by
  intro slot hslot
  rw [slots_ofLayout] at hslot
  obtain ⟨⟨aggregate, o⟩, hmem, rfl⟩ := List.mem_map.1 hslot
  have hzip : (aggregate.slotSize, o) ∈ (slotSizes aggregates).zip layout.offsets := by
    rw [slotSizes, List.zip_map_left]
    exact List.mem_map_of_mem (f := Prod.map Aggregate.slotSize id) hmem
  obtain ⟨hinside, -, haligned⟩ := Layout.inside_of_ok h hzip
  exact ⟨Nat.le_trans hinside hcapacity, Nat.le_refl aggregate.slotSize.size, haligned⟩

end Bundle

/-- However many aggregates there are, their slots have room. -/
theorem Table.hasRoom_of_aggregating {keys : List Key} {aggregates : List Aggregate}
    {bundle : Bundle} {order : GroupOrder} {width : Nat} {next : Table} {notices : List Notice}
    (h : aggregating keys aggregates order width next =
      .ok (grouping keys bundle order width next, notices)) : bundle.HasRoom := by
  match aggregates with
  | [] =>
    obtain ⟨built, hbuilt, heq⟩ := map_eq_ok.1 h
    rw [distinct] at hbuilt
    split at hbuilt <;> cases hbuilt
    cases heq
    exact Bundle.hasRoom_single _
  | [aggregate] =>
    cases h
    exact Bundle.hasRoom_single _
  | first :: second :: rest =>
    obtain ⟨⟨built, layout⟩, hpacked, h⟩ := bind_eq_ok.1 h
    cases h
    obtain ⟨found, capacity, hlayout, hcapacity, heq⟩ := Bundle.packed_eq_ok_iff.1 hpacked
    cases heq
    exact Bundle.hasRoom_ofLayout hlayout (Layout.bucket_eq_ok hcapacity).2.1

end Rollup
