import Rollup.Table.Buffer

/-!
# Bundles of aggregators

The aggregators of a stage take every row one after the other, each working on
its own slot of the group's buffer.  When one of them refuses a row, those in
front of it have taken the row already, and those behind it never see it.
-/

namespace Rollup

/-- An aggregator and its place in the buffer of every group. -/
structure Slot where
  aggregator : Aggregator
  offset : Nat
  size : Nat

structure Bundle where
  slots : List Slot
  /-- The size of a group's buffer. -/
  capacity : Nat

namespace Bundle

/-! ## Building -/

/-- A bundle of one aggregator, which has the buffer to itself. -/
def single (aggregate : Aggregate) : Bundle :=
  ⟨[⟨.new aggregate, 0, aggregate.slotSize.size⟩], aggregate.slotSize.size⟩

/-- The places that aggregates need, in order. -/
def slotSizes (aggregates : List Aggregate) : List SlotSize := aggregates.map Aggregate.slotSize

/-- A bundle of aggregators whose slots were laid out. -/
def ofLayout (aggregates : List Aggregate) (layout : Layout) (capacity : Nat) : Bundle :=
  ⟨aggregates.zipWith (fun aggregate offset ↦ ⟨.new aggregate, offset, aggregate.slotSize.size⟩)
    layout.offsets, capacity⟩

/-- The sizes of buffers that bundles are built for. -/
def capacities : List Nat := [8, 16, 24, 32, 48, 64]

/-- A bundle of aggregators whose slots were laid out, if there is one of this
capacity. -/
def ofCapacity (aggregates : List Aggregate) (layout : Layout) (capacity : Nat) :
    Except Error Bundle :=
  if capacity ∈ capacities then .ok (ofLayout aggregates layout capacity)
  else .error (.tooMuchState capacity)

/-- A bundle of several aggregators, with its layout. -/
def packed (aggregates : List Aggregate) : Except Error (Bundle × Layout) := do
  let layout ← Layout.of (slotSizes aggregates)
  let capacity ← Layout.bucket layout.total
  let bundle ← ofCapacity aggregates layout capacity
  return (bundle, layout)

/-! ## Running -/

variable [NumberReader]

/-- One slot's share of the first row of a group. -/
def startSlot (slot : Slot) (row : Row) (buffer : Buffer) : Step Error (Slot × Buffer) :=
  let begun := slot.aggregator.start row
  let slot := { slot with aggregator := begun.1 }
  .ofExcept (slot, buffer) do
    let state ← begun.2
    let buffer ← buffer.write slot.offset slot.size begun.1.aggregate.slotSize state
    return (slot, buffer)

/-- One slot's share of a further row of a group, which changes the state where it is. -/
def absorbSlot (slot : Slot) (row : Row) (buffer : Buffer) : Step Error (Slot × Buffer) :=
  match buffer.read slot.offset slot.size with
  | .error e => .failed (slot, buffer) e
  | .ok state => (slot.aggregator.absorb row state).map fun (aggregator, state) ↦
      ({ slot with aggregator }, buffer.replace slot.offset slot.size state)

/-- Lets slot after slot take its share, until one fails. -/
def through (share : Slot → Row → Buffer → Step Error (Slot × Buffer)) (row : Row) :
    List Slot → Buffer → Step Error (List Slot × Buffer)
  | [], buffer => .done ([], buffer)
  | slot :: rest, buffer =>
    let step := share slot row buffer
    match step.outcome with
    | .error e => .failed (step.state.1 :: rest, step.state.2) e
    | .ok _ => (through share row rest step.state.2).map fun (rest, buffer) ↦
        (step.state.1 :: rest, buffer)

/-- The buffer of a new group with this first row. -/
def start (b : Bundle) (row : Row) : Step Error (Bundle × Buffer) :=
  (through startSlot row b.slots (.blank b.capacity)).map fun (slots, buffer) ↦
    ({ b with slots }, buffer)

/-- Takes another row into a group's buffer. -/
def absorb (b : Bundle) (row : Row) (buffer : Buffer) : Step Error (Bundle × Buffer) :=
  (through absorbSlot row b.slots buffer).map fun (slots, buffer) ↦ ({ b with slots }, buffer)

/-- Fills the columns of all aggregators for a group. -/
def print (b : Bundle) (buffer : Buffer) (columns : Columns) : Step Error Columns :=
  Step.each (fun columns slot ↦
    match buffer.read slot.offset slot.size with
    | .error e => .failed columns e
    | .ok state => match slot.aggregator.results state with
      | .error e => .failed columns e
      | .ok entries => columns.putAll entries) b.slots columns

end Bundle

end Rollup
