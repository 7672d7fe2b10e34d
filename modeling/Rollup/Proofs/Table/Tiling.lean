import Rollup.Proofs.Table.Room

/-!
# Layouts waste nothing

A slot is sound if its size is a power of two up to 64 and its alignment is one of at most 8 that
divides the size.  Sound slots of up to 64 bytes together have a layout, and `Layout.Tiles` says
what a layout is: the slots lie side by side, each at a multiple of its size and its alignment,
larger ones first, and there is no byte between them.

That no byte is left out is seen in the order by size, in which every slot begins where the slot
before it ends (`Layout.exists_covering`); that the slots begin at multiples of their sizes needs
only that the sizes in front are multiples of the smaller ones (`Layout.inside_of_ok`).
-/

namespace Rollup

namespace SlotSize

/-- A power of two up to 64. -/
def HasSize (slot : SlotSize) : Prop := (∃ k, slot.size = 2 ^ k) ∧ slot.size ≤ 64

/-- An alignment of at most 8 that the size is a multiple of. -/
def HasAlign (slot : SlotSize) : Prop := slot.align ≤ 8 ∧ slot.align ∣ slot.size

instance (slot : SlotSize) : Decidable slot.HasAlign := inferInstanceAs (Decidable (_ ∧ _))

/-- A slot that can be part of a layout. -/
def Sound (slot : SlotSize) : Prop := slot.HasSize ∧ slot.HasAlign

/-- What a slot that is not sound is blamed for: its size if that is wrong, and else its
alignment. -/
inductive Blamed (slot : SlotSize) : Error → Prop
  | size (h : ¬slot.HasSize) : Blamed slot (.defect (.slotSize slot.size))
  | align (hsize : slot.HasSize) (h : ¬slot.HasAlign) :
    Blamed slot (.defect (.slotAlignment slot.size slot.align))

end SlotSize

namespace Layout

/-- What a layout of slots is. -/
structure Tiles (slots : List SlotSize) (layout : Layout) : Prop where
  total : layout.total = (slots.map SlotSize.size).sum
  length : layout.offsets.length = slots.length
  /-- No two slots have a byte in common. -/
  apart : (slots.zip layout.offsets).Pairwise Apart
  /-- Every byte belongs to a slot. -/
  covered : ∀ b, b < layout.total ↔
    ∃ p ∈ slots.zip layout.offsets, p.2 ≤ b ∧ b < p.2 + p.1.size
  aligned : ∀ p ∈ slots.zip layout.offsets, p.1.size ∣ p.2 ∧ p.1.align ∣ p.2
  /-- Larger slots end before smaller ones begin. -/
  largerFirst : ∀ p ∈ slots.zip layout.offsets, ∀ q ∈ slots.zip layout.offsets,
    q.1.size < p.1.size → p.2 + p.1.size ≤ q.2
  /-- Slots of one size keep the order in which they were given. -/
  inOrder : (slots.zip layout.offsets).Pairwise fun p q ↦
    p.1.size = q.1.size → p.2 + p.1.size ≤ q.2

variable {slots : List SlotSize} {slot : SlotSize} {layout : Layout}

/-! ## Faults -/

theorem mem_slotSizes_iff : slot.size ∈ slotSizes ↔ slot.HasSize := by
  constructor
  · intro h
    have hpower : ∀ size ∈ slotSizes, ∃ k ≤ 6, size = 2 ^ k := by decide
    obtain ⟨k, hk, hsize⟩ := hpower slot.size h
    exact ⟨⟨k, hsize⟩, hsize ▸ Nat.pow_le_pow_right (by decide) hk⟩
  · rintro ⟨⟨k, hsize⟩, hsmall⟩
    have hk : k ≤ 6 := by
      rw [hsize] at hsmall
      exact (Nat.pow_le_pow_iff_right (by decide)).1 hsmall
    have hmem : ∀ k ≤ 6, 2 ^ k ∈ slotSizes := by decide
    exact hsize ▸ hmem k hk

theorem slotFault?_of_not_hasSize (h : ¬slot.HasSize) :
    slotFault? slot = some (.defect (.slotSize slot.size)) :=
  if_pos (mt mem_slotSizes_iff.1 h)

theorem slotFault?_of_not_hasAlign (halign : 1 ≤ slot.align) (hsize : slot.HasSize)
    (h : ¬slot.HasAlign) :
    slotFault? slot = some (.defect (.slotAlignment slot.size slot.align)) := by
  rw [slotFault?, if_neg (not_not.2 (mem_slotSizes_iff.2 hsize))]
  by_cases hlarge : maxAlign < slot.align
  · rw [if_pos hlarge]
  · have hdvd : slot.size % slot.align ≠ 0 :=
      fun hmod ↦ h ⟨Nat.le_of_not_lt hlarge, Nat.dvd_of_mod_eq_zero hmod⟩
    rw [if_neg hlarge, if_neg (Nat.ne_of_gt halign), if_pos hdvd]

theorem slotFault?_of_sound (halign : 1 ≤ slot.align) (h : slot.Sound) :
    slotFault? slot = none := by
  obtain ⟨hsize, hsmall, hdvd⟩ := h
  rw [slotFault?, if_neg (not_not.2 (mem_slotSizes_iff.2 hsize)),
    if_neg (show ¬maxAlign < slot.align from Nat.not_lt.2 hsmall), if_neg (Nat.ne_of_gt halign),
    if_neg (not_not.2 (Nat.mod_eq_zero_of_dvd hdvd))]

theorem slotFault?_eq_none_iff (halign : 1 ≤ slot.align) :
    slotFault? slot = none ↔ slot.Sound := by
  refine ⟨fun h ↦ ?_, slotFault?_of_sound halign⟩
  by_contra hnot
  by_cases hsize : slot.HasSize
  · rw [slotFault?_of_not_hasAlign halign hsize fun hdvd ↦ hnot ⟨hsize, hdvd⟩] at h
    cases h
  · rw [slotFault?_of_not_hasSize hsize] at h
    cases h

theorem slotFault?_eq_some_iff (halign : 1 ≤ slot.align) {e : Error} :
    slotFault? slot = some e ↔ slot.Blamed e := by
  constructor
  · intro h
    by_cases hsize : slot.HasSize
    · have hdvd : ¬slot.HasAlign := by
        intro hdvd
        rw [slotFault?_of_sound halign ⟨hsize, hdvd⟩] at h
        cases h
      rw [slotFault?_of_not_hasAlign halign hsize hdvd] at h
      cases h
      exact .align hsize hdvd
    · rw [slotFault?_of_not_hasSize hsize] at h
      cases h
      exact .size hsize
  · rintro (h | ⟨hsize, h⟩)
    · exact slotFault?_of_not_hasSize h
    · exact slotFault?_of_not_hasAlign halign hsize h

/-! ## Covering -/

/-- In slots that lie side by side, every byte belongs to one. -/
theorem exists_covering {order : List (SlotSize × Nat)} {b : Nat}
    (h : b < totalSize (order.map Prod.fst)) :
    ∃ before slot after, order = before ++ slot :: after ∧
      totalSize (before.map Prod.fst) ≤ b ∧ b < totalSize (before.map Prod.fst) + slot.1.size := by
  induction order generalizing b with
  | nil => exact absurd h (Nat.not_lt_zero b)
  | cons first rest ih =>
    have htotal : ∀ more : List (SlotSize × Nat),
        totalSize ((first :: more).map Prod.fst) = first.1.size + totalSize (more.map Prod.fst) :=
      fun _ ↦ rfl
    rw [htotal] at h
    by_cases hfirst : b < first.1.size
    · exact ⟨[], first, rest, rfl, Nat.zero_le b, Nat.lt_of_lt_of_le hfirst (Nat.le_add_left _ _)⟩
    · obtain ⟨before, slot, after, rfl, hlow, hhigh⟩ := ih (b := b - first.1.size) (by omega)
      refine ⟨first :: before, slot, after, rfl, ?_, ?_⟩ <;> rw [htotal] <;> omega

theorem exists_slot_at {b : Nat} (h : b < totalSize slots) :
    ∃ p ∈ slots.zip (offsetsFrom slots [] slots), p.2 ≤ b ∧ b < p.2 + p.1.size := by
  rw [← totalSize_bySize] at h
  obtain ⟨before, ⟨slot, number⟩, after, horder, hlow, hhigh⟩ := exists_covering h
  have hmem : (slot, number) ∈ bySize slots := horder ▸ List.mem_append_right _ List.mem_cons_self
  obtain ⟨front, behind, hslots, rfl⟩ := split_of_mem_bySize hmem
  rw [totalSize_before hslots horder] at hlow hhigh
  exact ⟨(slot, offset slots front slot), mem_zip_offsetsFrom_iff.2 ⟨front, behind, hslots, rfl⟩,
    hlow, hhigh⟩

/-! ## Layouts -/

theorem tiles_of_ok (h : of slots = .ok layout) : layout.Tiles slots := by
  obtain ⟨-, -, hlayout⟩ := of_eq_ok_iff.1 h
  have hzip : slots.zip layout.offsets = slots.zip (offsetsFrom slots [] slots) := by rw [hlayout]
  constructor
  case total =>
    rw [hlayout]
    rfl
  case length => rw [hlayout, length_offsetsFrom]
  case apart =>
    rw [hzip]
    exact pairwise_zip_offsetsFrom apart_of_split (List.nil_append slots).symm
  case covered =>
    intro b
    constructor
    · intro hb
      rw [hlayout] at hb
      rw [hzip]
      exact exists_slot_at hb
    · rintro ⟨p, hp, -, hb⟩
      exact Nat.lt_of_lt_of_le hb (inside_of_ok h hp).1
  case aligned => exact fun p hp ↦ (inside_of_ok h hp).2
  case largerFirst =>
    rintro ⟨slot, o⟩ hslot ⟨other, o'⟩ hother hlt
    rw [hzip] at hslot hother
    obtain ⟨front, behind, hsplit, rfl⟩ := mem_zip_offsetsFrom_iff.1 hslot
    obtain ⟨front', behind', -, rfl⟩ := mem_zip_offsetsFrom_iff.1 hother
    exact offset_add_size_le_of_lt hsplit hlt _
  case inOrder =>
    rw [hzip]
    apply pairwise_zip_offsetsFrom _ (List.nil_append slots).symm
    exact fun _ heq ↦ offset_add_size_le_of_eq heq slots _ _

variable (halign : ∀ slot ∈ slots, 1 ≤ slot.align)

include halign

theorem forall_sound_iff :
    (∀ slot ∈ slots, slotFault? slot = none) ↔ ∀ slot ∈ slots, slot.Sound :=
  forall₂_congr fun slot hslot ↦ slotFault?_eq_none_iff (halign slot hslot)

/-- Slots have a layout exactly if they are sound and have up to 64 bytes together. -/
theorem exists_layout_iff : (∃ layout, of slots = .ok layout) ↔
    (∀ slot ∈ slots, slot.Sound) ∧ (slots.map SlotSize.size).sum ≤ 64 := by
  rw [← forall_sound_iff halign]
  constructor
  · rintro ⟨layout, h⟩
    obtain ⟨hfaults, hsmall, -⟩ := of_eq_ok_iff.1 h
    exact ⟨hfaults, hsmall⟩
  · rintro ⟨hfaults, hsmall⟩
    exact ⟨_, of_eq_ok_iff.2 ⟨hfaults, hsmall, rfl⟩⟩

/-- The error names the first slot that is not sound, or else the bytes of all slots. -/
theorem of_eq_error_iff_blamed {e : Error} : of slots = .error e ↔
    (∃ front slot behind, slots = front ++ slot :: behind ∧ (∀ other ∈ front, other.Sound) ∧
        slot.Blamed e) ∨
      (∀ slot ∈ slots, slot.Sound) ∧ 64 < (slots.map SlotSize.size).sum ∧
        e = .tooMuchState (slots.map SlotSize.size).sum := by
  rw [of_eq_error_iff, forall_sound_iff halign, List.findSome?_eq_some_iff]
  refine or_congr ?_ Iff.rfl
  refine exists_congr fun front ↦ exists_congr fun slot ↦ exists_congr fun behind ↦ ?_
  refine and_congr_right ?_
  rintro rfl
  rw [List.forall_mem_append, List.forall_mem_cons] at halign
  rw [slotFault?_eq_some_iff halign.2.1, forall_sound_iff halign.1, and_comm]

/-- Slots have a layout exactly if they are sound and have up to 64 bytes together.  It leaves no
byte out, and the smallest buffer that is large enough holds all slots; there is a bundle of that
size for them.  Otherwise the error names the first slot that is not sound, or else the bytes of
all slots. -/
theorem of_tiles :
    ((∃ layout, of slots = .ok layout) ↔
      (∀ slot ∈ slots, slot.Sound) ∧ (slots.map SlotSize.size).sum ≤ 64) ∧
    (∀ layout, of slots = .ok layout → layout.Tiles slots ∧
      ∃ capacity, bucket layout.total = .ok capacity ∧
        (capacity ∈ buckets ∧ layout.total ≤ capacity ∧
          ∀ other ∈ buckets, layout.total ≤ other → capacity ≤ other) ∧
        (∀ p ∈ slots.zip layout.offsets, p.2 + p.1.size ≤ capacity) ∧
        (∀ aggregates, Bundle.ofCapacity aggregates layout capacity =
          .ok (Bundle.ofLayout aggregates layout capacity)) ∧
        ∀ aggregates, Bundle.slotSizes aggregates = slots →
          Bundle.packed aggregates = .ok (Bundle.ofLayout aggregates layout capacity, layout)) ∧
    ∀ e, of slots = .error e ↔
      (∃ front slot behind, slots = front ++ slot :: behind ∧ (∀ other ∈ front, other.Sound) ∧
        slot.Blamed e) ∨
      (∀ slot ∈ slots, slot.Sound) ∧ 64 < (slots.map SlotSize.size).sum ∧
        e = .tooMuchState (slots.map SlotSize.size).sum := by
  refine ⟨exists_layout_iff halign, fun layout h ↦ ?_, fun e ↦ of_eq_error_iff_blamed halign⟩
  have hsmall : layout.total ≤ maxTotal := by
    obtain ⟨-, hsmall, rfl⟩ := of_eq_ok_iff.1 h
    exact hsmall
  obtain ⟨capacity, hcapacity⟩ := exists_bucket hsmall
  have hsmallest := bucket_eq_ok hcapacity
  refine ⟨tiles_of_ok h, capacity, hcapacity, hsmallest, fun p hp ↦ ?_, fun aggregates ↦ ?_, ?_⟩
  · exact Nat.le_trans (inside_of_ok h hp).1 hsmallest.2.1
  · exact Bundle.ofCapacity_bucket hcapacity aggregates layout
  · rintro aggregates rfl
    exact Bundle.packed_eq_ok_iff.2 ⟨layout, capacity, h, hcapacity, rfl⟩

omit halign

/-- Two large slots among small ones, and a list with two unsound slots. -/
theorem of_tiles_mixed :
    (∀ slot ∈ [⟨2, 2⟩, ⟨8, 8⟩, ⟨2, 1⟩, ⟨8, 4⟩], 1 ≤ SlotSize.align slot) ∧
      of [⟨2, 2⟩, ⟨8, 8⟩, ⟨2, 1⟩, ⟨8, 4⟩] = .ok ⟨20, [16, 0, 18, 8]⟩ ∧
      Tiles [⟨2, 2⟩, ⟨8, 8⟩, ⟨2, 1⟩, ⟨8, 4⟩] ⟨20, [16, 0, 18, 8]⟩ ∧
      of [⟨8, 8⟩, ⟨4, 8⟩, ⟨3, 1⟩] = .error (.defect (.slotAlignment 4 8)) := by
  have halign : ∀ slot ∈ [⟨2, 2⟩, ⟨8, 8⟩, ⟨2, 1⟩, ⟨8, 4⟩], 1 ≤ SlotSize.align slot := by decide
  have hunsound : ∀ slot ∈ [⟨8, 8⟩, ⟨4, 8⟩, ⟨3, 1⟩], 1 ≤ SlotSize.align slot := by decide
  have hof : of [⟨2, 2⟩, ⟨8, 8⟩, ⟨2, 1⟩, ⟨8, 4⟩] = .ok ⟨20, [16, 0, 18, 8]⟩ := by decide
  refine ⟨halign, hof, ((of_tiles halign).2.1 _ hof).1, ((of_tiles hunsound).2.2 _).2 (.inl ?_)⟩
  refine ⟨[⟨8, 8⟩], ⟨4, 8⟩, [⟨3, 1⟩], rfl, ?_, .align ⟨⟨2, rfl⟩, by decide⟩ (by decide)⟩
  exact List.forall_mem_singleton.2 ⟨⟨⟨3, rfl⟩, by decide⟩, by decide⟩

end Layout

end Rollup
