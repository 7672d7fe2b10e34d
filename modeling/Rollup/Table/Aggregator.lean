import Std.Data.TreeSet
import Rollup.Codec.Arena
import Rollup.Codec.Blob
import Rollup.Number.Numeric
import Rollup.Output.Columns
import Rollup.Table.Layout

/-!
# Aggregators

An aggregator turns the rows of a group into the values of some columns.  What
it remembers about a group is an `Accumulator` of a fixed size.  Two kinds of
aggregators need more than that, and keep it for all their groups together:

* one that carries fields from the best row keeps them in an arena, and the
  accumulator has the handle;
* one that counts different values keeps a set of pairs of a group's number
  and a value, and the accumulator has the number.

An aggregator refuses a row whose field it cannot read as a number, and is then
unchanged.  Carried fields can be too long to be kept, and this comes out only after
the value has been compared.  The group of a better row then has the better value
and still the fields of an earlier row; a new group has taken its handle.
-/

namespace Rollup

/-- A field printed in a column as it is. -/
structure CarriedField where
  field : Nat
  column : Nat
  deriving DecidableEq, Repr

/-- What an aggregator is to compute, and where it prints it. -/
inductive Aggregate where
  /-- Nothing; the groups themselves are the result. -/
  | nothing
  | count (column : Nat)
  | sum (field column : Nat)
  | extremum (goal : Goal) (field column : Nat)
  /-- Fields of the row with the best value of `field`. -/
  | bestRow (goal : Goal) (field : Nat) (carried : List CarriedField)
  | distinct (field column : Nat)
  deriving DecidableEq, Repr

/-- What an aggregator remembers about a group. -/
inductive Accumulator where
  | nothing
  | count (rows : Nat)
  | number (value : Numeric)
  | bestRow (value : Numeric) (handle : Nat)
  | distinct (group count : Nat)
  deriving DecidableEq, Repr

/-- An aggregate with what its groups share. -/
structure Aggregator where
  aggregate : Aggregate
  /-- The carried fields of each group's best row. -/
  arena : Arena
  /-- The values that each group has seen, behind the group's number. -/
  seen : Std.TreeSet Bytes
  /-- The number of the next group. -/
  nextGroup : Nat

namespace Aggregate

/-- The bytes that an accumulator of this aggregate takes, and its alignment. -/
def slotSize : Aggregate → SlotSize
  | .nothing => ⟨1, 1⟩
  | .count _ => ⟨8, 8⟩
  | .sum _ _ => ⟨16, 8⟩
  | .extremum _ _ _ => ⟨16, 8⟩
  | .bestRow _ _ _ => ⟨32, 8⟩
  | .distinct _ _ => ⟨8, 4⟩

end Aggregate

namespace Aggregator

/-- An aggregator without groups. -/
def new (aggregate : Aggregate) : Aggregator := ⟨aggregate, .empty, ∅, 0⟩

variable [NumberReader]

/-- Reads a field as a number. -/
def number (row : Row) (field : Nat) : Except Error Numeric :=
  match row.field field with
  | .error e => .error e
  | .ok bytes => Numeric.make bytes

/-- The carried fields of a row as one blob. -/
def carriedBlob (carried : List CarriedField) (row : Row) : Except Error Bytes := do
  let values ← carried.mapM fun c ↦ row.field c.field
  Blob.encode values

/-- A value that group number `group` has seen, as a member of the shared set. -/
def sighting (group : Nat) (value : Bytes) : Bytes := Varint.littleEndian 4 group ++ value

/-- The accumulator of a new group with this first row. -/
def start (a : Aggregator) (row : Row) : Aggregator × Except Error Accumulator :=
  match a.aggregate with
  | .nothing => (a, .ok .nothing)
  | .count _ => (a, .ok (.count 1))
  | .sum field _ => (a, (number row field).map fun x ↦ .number ((Numeric.int 0).add x))
  | .extremum _ field _ => (a, (number row field).map .number)
  | .bestRow _ field carried =>
    match number row field with
    | .error e => (a, .error e)
    | .ok x => match carriedBlob carried row with
      | .error e => (a, .error e)
      | .ok blob =>
        let stored := a.arena.store blob
        ({ a with arena := stored.1 }, stored.2.map (.bestRow x))
  | .distinct field _ =>
    if 1 <<< 32 ≤ a.nextGroup + 1 then (a, .error (.defect .groupsExhausted))
    else match row.field field with
      | .error e => (a, .error e)
      | .ok value =>
        let seen := a.seen.insert (sighting a.nextGroup value)
        ({ a with seen, nextGroup := a.nextGroup + 1 }, .ok (.distinct a.nextGroup 1))

/-- The largest number of rows that can be counted: counts of rows have 64 bits
with a sign. -/
def maxRows : Nat := (1 <<< 63) - 1

/-- The largest number of different values that can be counted: these counts have
32 bits. -/
def maxDistinct : Nat := (1 <<< 32) - 1

/-- Takes another row into a group's accumulator.  A better value takes the place of the
old one before the carried fields are put behind the handle. -/
def absorb (a : Aggregator) (row : Row) (state : Accumulator) :
    Step Error (Aggregator × Accumulator) :=
  match a.aggregate, state with
  | .nothing, .nothing => .done (a, .nothing)
  | .count _, .count rows =>
    if rows < maxRows then .done (a, .count (rows + 1))
    else .failed (a, state) (.outOfRange .counter)
  | .sum field _, .number total =>
    .ofExcept (a, state) ((number row field).map fun x ↦ (a, .number (total.add x)))
  | .extremum goal field _, .number best =>
    .ofExcept (a, state) ((number row field).map fun x ↦ (a, .number (best.improve goal x)))
  | .bestRow goal field carried, .bestRow best handle =>
    match number row field with
    | .error e => .failed (a, state) e
    | .ok x => match best.improvement? goal x with
      | none => .done (a, state)
      | some better => .ofExcept (a, .bestRow better handle) do
        let blob ← carriedBlob carried row
        let arena ← a.arena.update handle blob
        return ({ a with arena }, .bestRow better handle)
  | .distinct field _, .distinct group count =>
    match row.field field with
    | .error e => .failed (a, state) e
    | .ok value =>
      if a.seen.contains (sighting group value) then .done (a, state)
      else if count < maxDistinct then
        let seen := a.seen.insert (sighting group value)
        .done ({ a with seen }, .distinct group (count + 1))
      else .failed (a, state) (.outOfRange .counter)
  | _, _ => .failed (a, state) (.outOfRange .slot)

/-- The bytes of a number without a fraction. -/
def decimalBytes (n : Nat) : Bytes := (Nat.toDigits 10 n).map fun c ↦ c.toNat.toUInt8

/-- The columns that the aggregator fills for a group. -/
def results (a : Aggregator) (state : Accumulator) : Except Error (List (Nat × Bytes)) :=
  match a.aggregate, state with
  | .nothing, .nothing => .ok []
  | .count column, .count rows => .ok [(column, decimalBytes rows)]
  | .sum _ column, .number total => .ok [(column, total.bytes)]
  | .extremum _ _ column, .number best => .ok [(column, best.bytes)]
  | .bestRow _ _ carried, .bestRow _ handle => do
    let blob ← a.arena.load handle
    let values ← Blob.decode carried.length blob
    return (carried.map CarriedField.column).zip values
  | .distinct _ column, .distinct _ count => .ok [(column, decimalBytes count)]
  | _, _ => .error (.outOfRange .slot)

end Aggregator

end Rollup
