import Rollup.Proofs.Table.Bundle
import Rollup.Proofs.Table.Sorting

/-!
# Slots that were laid out have no byte in common

A slot begins behind all larger slots and behind the equal ones in front of it.
Of two slots, then, the later one begins behind the earlier one if both have the
same size, and otherwise the smaller one begins behind the larger one
(`Layout.apart_of_split`).
-/

namespace Rollup

open Outcome

namespace Layout

/-! ## Total sizes -/

variable {all front mid behind slots : List SlotSize} {slot other : SlotSize} {size : Nat}

/-- Slots of a larger size are among those above a smaller one. -/
theorem sizeAbove_add_sizeOf_le (all : List SlotSize) {small large : Nat} (h : small < large) :
    sizeAbove all large + sizeOf all large ≤ sizeAbove all small := by
  induction all with
  | nil => exact Nat.le_refl _
  | cons slot rest ih =>
    rw [sizeAbove_cons, sizeAbove_cons, sizeOf_cons]
    split_ifs <;> omega

/-! ## Offsets -/

/-- Two slots at their offsets have no byte in common. -/
def Apart (p q : SlotSize × Nat) : Prop := p.2 + p.1.size ≤ q.2 ∨ q.2 + q.1.size ≤ p.2

/-- Larger slots end before smaller ones begin. -/
theorem offset_add_size_le_of_lt (h : all = front ++ slot :: behind)
    (hlt : other.size < slot.size) (front' : List SlotSize) :
    offset all front slot + slot.size ≤ offset all front' other := by
  have hslot : sizeOf front slot.size + slot.size ≤ sizeOf all slot.size := by
    rw [h, sizeOf_append, sizeOf_cons_self]
    omega
  have habove := sizeAbove_add_sizeOf_le all hlt
  rw [offset, offset]
  omega

/-- Of slots of one size, those given first end before the others begin. -/
theorem offset_add_size_le_of_eq (heq : slot.size = other.size) (all front mid : List SlotSize) :
    offset all front slot + slot.size ≤ offset all (front ++ slot :: mid) other := by
  rw [offset, offset, ← heq, sizeOf_append, sizeOf_cons_self]
  omega

theorem apart_of_split (h : all = front ++ slot :: (mid ++ other :: behind)) :
    Apart (slot, offset all front slot) (other, offset all (front ++ slot :: mid) other) := by
  rcases Nat.lt_trichotomy slot.size other.size with hlt | heq | hlt
  · have hother : all = (front ++ slot :: mid) ++ other :: behind := by simp [h]
    exact .inr (offset_add_size_le_of_lt hother hlt front)
  · exact .inl (offset_add_size_le_of_eq heq all front mid)
  · exact .inl (offset_add_size_le_of_lt h hlt _)

/-- The slots with their offsets. -/
theorem mem_zip_offsetsFrom_iff {o : Nat} : (slot, o) ∈ slots.zip (offsetsFrom all front slots) ↔
    ∃ mid behind, slots = mid ++ slot :: behind ∧ o = offset all (front ++ mid) slot := by
  constructor
  · intro h
    induction slots generalizing front with
    | nil => cases h
    | cons other slots ih =>
      rw [offsetsFrom, List.zip_cons_cons] at h
      rcases List.mem_cons.1 h with heq | h
      · cases heq
        exact ⟨[], slots, rfl, by rw [List.append_nil]⟩
      · obtain ⟨mid, behind, rfl, rfl⟩ := ih h
        exact ⟨other :: mid, behind, rfl, by rw [List.append_cons front other mid]⟩
  · rintro ⟨mid, behind, rfl, rfl⟩
    induction mid generalizing front with
    | nil =>
      rw [List.append_nil]
      exact List.mem_cons_self
    | cons other mid ih =>
      rw [List.append_cons front other mid]
      exact List.mem_cons_of_mem _ ih

/-- What holds of any two slots holds of them as they were given. -/
theorem pairwise_zip_offsetsFrom {R : SlotSize × Nat → SlotSize × Nat → Prop}
    (hR : ∀ {front slot mid other behind}, all = front ++ slot :: (mid ++ other :: behind) →
      R (slot, offset all front slot) (other, offset all (front ++ slot :: mid) other))
    (h : all = front ++ slots) : (slots.zip (offsetsFrom all front slots)).Pairwise R := by
  induction slots generalizing front with
  | nil => exact .nil
  | cons slot slots ih =>
    refine .cons ?_ (ih (by rw [h, List.append_cons]))
    rintro ⟨other, o⟩ hother
    obtain ⟨mid, behind, rfl, rfl⟩ := mem_zip_offsetsFrom_iff.1 hother
    rw [List.append_assoc]
    exact hR h

theorem offsets_of_ok {layout : Layout} (h : of slots = .ok layout) :
    layout.offsets = offsetsFrom slots [] slots := by
  obtain ⟨-, -, rfl⟩ := of_eq_ok_iff.1 h
  rfl

/-! ## Buffers -/

/-- The chosen buffer is the smallest that is large enough. -/
theorem bucket_eq_ok {total capacity : Nat} (h : bucket total = .ok capacity) :
    capacity ∈ buckets ∧ total ≤ capacity ∧
      ∀ other ∈ buckets, total ≤ other → capacity ≤ other := by
  rw [bucket] at h
  split at h
  · rename_i found hfound
    cases h
    obtain ⟨hle, smaller, larger, hbuckets, hsmaller⟩ := List.find?_eq_some_iff_append.1 hfound
    have hsorted : buckets.Pairwise (· ≤ ·) := by decide
    rw [hbuckets, List.pairwise_append, List.pairwise_cons] at hsorted
    refine ⟨List.mem_of_find?_eq_some hfound, of_decide_eq_true hle, fun other hother hlarge ↦ ?_⟩
    rw [hbuckets, List.mem_append, List.mem_cons] at hother
    obtain hother | rfl | hother := hother
    · have hnot := hsmaller other hother
      rw [decide_eq_true hlarge] at hnot
      cases hnot
    · exact Nat.le_refl _
    · exact hsorted.2.1.1 other hother
  · cases h

theorem exists_bucket {total : Nat} (h : total ≤ maxTotal) :
    ∃ capacity, bucket total = .ok capacity := by
  have hfound : (buckets.find? fun size ↦ total ≤ size).isSome := by
    rw [List.find?_isSome]
    exact ⟨maxTotal, by decide, decide_eq_true h⟩
  obtain ⟨capacity, hcapacity⟩ := Option.isSome_iff_exists.1 hfound
  exact ⟨capacity, by rw [bucket, hcapacity]⟩

end Layout

/-! ## Bundles -/

namespace Bundle

variable {aggregates : List Aggregate} {layout : Layout} {capacity : Nat}

/-- There are bundles for all sizes of buffers. -/
theorem ofCapacity_bucket {total : Nat} (h : Layout.bucket total = .ok capacity)
    (aggregates : List Aggregate) (layout : Layout) :
    ofCapacity aggregates layout capacity = .ok (ofLayout aggregates layout capacity) :=
  if_pos (Layout.bucket_eq_ok h).1

theorem packed_eq_ok_iff {built : Bundle × Layout} :
    packed aggregates = .ok built ↔ ∃ layout capacity,
      Layout.of (slotSizes aggregates) = .ok layout ∧ Layout.bucket layout.total = .ok capacity ∧
        built = (ofLayout aggregates layout capacity, layout) := by
  constructor
  · intro h
    obtain ⟨layout, hlayout, h⟩ := bind_eq_ok.1 h
    obtain ⟨capacity, hcapacity, h⟩ := bind_eq_ok.1 h
    rw [ofCapacity_bucket hcapacity] at h
    cases h
    exact ⟨layout, capacity, hlayout, hcapacity, rfl⟩
  · rintro ⟨layout, capacity, hlayout, hcapacity, rfl⟩
    rw [packed, hlayout, ok_bind, hcapacity, ok_bind, ofCapacity_bucket hcapacity]
    rfl

theorem length_offsets (h : Layout.of (slotSizes aggregates) = .ok layout) :
    layout.offsets.length = aggregates.length := by
  rw [Layout.offsets_of_ok h, Layout.length_offsetsFrom, slotSizes, List.length_map]

theorem slots_ofLayout (aggregates : List Aggregate) (layout : Layout) (capacity : Nat) :
    (ofLayout aggregates layout capacity).slots = (aggregates.zip layout.offsets).map
      fun p ↦ ⟨.new p.1, p.2, p.1.slotSize.size⟩ := by
  rw [List.map_zip_eq_zipWith]
  rfl

/-- The slots of a bundle that was laid out have their places to themselves. -/
theorem wellPlaced_ofLayout (h : Layout.of (slotSizes aggregates) = .ok layout) (capacity : Nat) :
    WellPlaced (ofLayout aggregates layout capacity).slots where
  pos slot hslot := by
    rw [slots_ofLayout] at hslot
    obtain ⟨⟨aggregate, offset⟩, -, rfl⟩ := List.mem_map.1 hslot
    cases aggregate <;> exact Nat.succ_pos _
  apart := by
    have hapart := Layout.pairwise_zip_offsetsFrom Layout.apart_of_split
      (List.nil_append (slotSizes aggregates)).symm
    rw [← Layout.offsets_of_ok h, slotSizes, List.zip_map_left, List.pairwise_map] at hapart
    rw [slots_ofLayout, List.pairwise_map]
    exact hapart

theorem aggregates_ofLayout (h : Layout.of (slotSizes aggregates) = .ok layout) (capacity : Nat) :
    (ofLayout aggregates layout capacity).slots.map (fun slot ↦ slot.aggregator.aggregate) =
      aggregates := by
  rw [slots_ofLayout, List.map_map]
  exact List.map_fst_zip (Nat.le_of_eq (length_offsets h).symm)

end Bundle

end Rollup
