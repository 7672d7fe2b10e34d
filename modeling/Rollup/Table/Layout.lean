import Rollup.Error

/-!
# Laying out the states of a group

The states of a group's aggregates lie side by side in one small buffer.  Each
takes a slot whose size is a power of two.  Larger slots come first, and equal
ones in the order given; then every slot begins at a multiple of its own size,
and none of the buffer is wasted.

* `Layout.of` gives the total size and the offset of every slot.
* `Layout.bucket` is the buffer they go into: the smallest of a few sizes that
  is large enough.
-/

namespace Rollup

/-- The place that a state needs. -/
structure SlotSize where
  size : Nat
  align : Nat
  deriving DecidableEq, Repr

/-- Offsets for slots, in the order in which the slots were given. -/
structure Layout where
  total : Nat
  offsets : List Nat
  deriving DecidableEq, Repr

namespace Layout

/-- The largest buffer, in bytes. -/
def maxTotal : Nat := 64

/-- The largest alignment of a state. -/
def maxAlign : Nat := 8

/-- The powers of two up to 64. -/
def slotSizes : List Nat := [1, 2, 4, 8, 16, 32, 64]

/-- The sizes of buffers. -/
def buckets : List Nat := [8, 16, 24, 32, 48, 64]

/-- What is wrong with a slot, if anything is. -/
def slotFault? (slot : SlotSize) : Option Error :=
  if slot.size ∉ slotSizes then some (.defect (.slotSize slot.size))
  else if maxAlign < slot.align then some (.defect (.slotAlignment slot.size slot.align))
  else if slot.align = 0 then some (.outOfRange .alignment)
  else if slot.size % slot.align ≠ 0 then some (.defect (.slotAlignment slot.size slot.align))
  else none

/-- Puts a slot in front of those that are not larger. -/
def insertBySize (slot : SlotSize × Nat) : List (SlotSize × Nat) → List (SlotSize × Nat)
  | [] => [slot]
  | other :: rest =>
    if slot.1.size < other.1.size then other :: insertBySize slot rest else slot :: other :: rest

/-- The slots with their numbers, larger ones first and equal ones in the order
given. -/
def bySize (slots : List SlotSize) : List (SlotSize × Nat) :=
  slots.zipIdx.foldr insertBySize []

/-- Gives one slot after the other the place at the end, which `total` bytes stand
in front of.  Returns the new end, and the offsets by the numbers of the slots. -/
def assign (total : Nat) (offsets : List Nat) : List (SlotSize × Nat) → Nat × List Nat
  | [] => (total, offsets)
  | (slot, number) :: rest => assign (total + slot.size) (offsets.set number total) rest

/-- The layout of slots, unless one of them is faulty or they are too large
together. -/
def of (slots : List SlotSize) : Except Error Layout :=
  match slots.findSome? slotFault? with
  | some e => .error e
  | none =>
    let (total, offsets) := assign 0 (List.replicate slots.length 0) (bySize slots)
    if maxTotal < total then .error (.tooMuchState total) else .ok ⟨total, offsets⟩

/-- The smallest buffer for states of `total` bytes. -/
def bucket (total : Nat) : Except Error Nat :=
  match buckets.find? fun size ↦ total ≤ size with
  | some size => .ok size
  | none => .error (.tooMuchState total)

end Layout

end Rollup
