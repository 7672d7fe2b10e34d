import Rollup.Table.Aggregator

/-!
# The buffer of a group

A buffer holds the accumulators of one group, each at its own offset.  It keeps
account of bytes as memory does: what is written takes a range of bytes, and
destroys whatever overlapped that range before.  So aggregators that share a
buffer leave each other alone exactly because their slots are disjoint.

Reading a slot that does not hold an accumulator, and writing one that lies
outside the buffer, is too small or is not aligned, are errors.  An accumulator that
is held can be replaced where it is.
-/

namespace Rollup

/-- An accumulator that takes `size` bytes from `offset` on. -/
structure Cell where
  offset : Nat
  size : Nat
  state : Accumulator
  deriving DecidableEq, Repr

/-- Whether a cell and a range of bytes have none in common. -/
def Cell.isApart (c : Cell) (offset size : Nat) : Bool :=
  c.offset + c.size ≤ offset || offset + size ≤ c.offset

structure Buffer where
  capacity : Nat
  cells : List Cell
  deriving DecidableEq, Repr

namespace Buffer

/-- A buffer that holds nothing. -/
def blank (capacity : Nat) : Buffer := ⟨capacity, []⟩

/-- The accumulator in a slot. -/
def read (b : Buffer) (offset size : Nat) : Except Error Accumulator :=
  match b.cells.find? fun c ↦ c.offset = offset && c.size = size with
  | some c => .ok c.state
  | none => .error (.outOfRange .slot)

/-- Puts an accumulator that needs a place like `need` into a slot. -/
def write (b : Buffer) (offset size : Nat) (need : SlotSize) (state : Accumulator) :
    Except Error Buffer :=
  if offset + size ≤ b.capacity ∧ need.size ≤ size ∧ offset % need.align = 0 then
    .ok { b with cells := ⟨offset, size, state⟩ :: b.cells.filter fun c ↦ c.isApart offset size }
  else .error (.outOfRange .slot)

/-- Replaces the accumulator that a slot holds. -/
def replace (b : Buffer) (offset size : Nat) (state : Accumulator) : Buffer :=
  { b with cells := b.cells.map fun c ↦
      if c.offset = offset ∧ c.size = size then { c with state } else c }

end Buffer

end Rollup
