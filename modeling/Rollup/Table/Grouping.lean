import Std.Data.TreeMap
import Rollup.Table.Bundle

/-!
# Groups

Rows that agree on the key fields belong to the same group, and a group has one
buffer.  Groups are told apart by a byte string:

| Keys | String |
|---|---|
| none | the empty string, so that all rows are one group |
| one | the key field |
| several | the key fields with their lengths, see `Key.serialize` |

Nothing promises an order of the groups.  A `GroupOrder` says in which order
they are rendered, and may be any rearrangement; `GroupOrder.sorted` leaves them
in the order of their byte strings.
-/

namespace Rollup

/-- An order in which groups may be rendered, as a rearrangement of their byte
strings. -/
structure GroupOrder where
  arrange : List Bytes → List Bytes
  perm : ∀ strings, (arrange strings).Perm strings

/-- Groups in the order of their byte strings. -/
def GroupOrder.sorted : GroupOrder := ⟨fun strings ↦ strings, fun _ ↦ .refl _⟩

structure Grouping where
  keys : List Key
  /-- The buffer of each group, by the byte string of its key. -/
  groups : Std.TreeMap Bytes Buffer

namespace Grouping

/-- No groups yet. -/
def new (keys : List Key) : Grouping := ⟨keys, ∅⟩

/-- The number of groups. -/
def size (g : Grouping) : Nat := g.groups.size

/-- The byte string of the group that a row belongs to. -/
def keyOf (keys : List Key) (row : Row) : Except Error Bytes :=
  match keys with
  | [] => .ok []
  | [key] => row.field key.field
  | keys => Key.serialize keys row

/-- Takes a row into its group, which it may be the first of.  A group whose
first row is refused does not come into being. -/
def push [NumberReader] (g : Grouping) (bundle : Bundle) (row : Row) :
    Step Error (Grouping × Bundle) :=
  match keyOf g.keys row with
  | .error e => .failed (g, bundle) e
  | .ok key =>
    match g.groups[key]? with
    | some buffer =>
      (bundle.absorb row buffer).map fun (bundle, buffer) ↦
        ({ g with groups := g.groups.insert key buffer }, bundle)
    | none =>
      let step := bundle.start row
      match step.outcome with
      | .error e => .failed (g, step.state.1) e
      | .ok _ => .done ({ g with groups := g.groups.insert key step.state.2 }, step.state.1)

/-- The key columns of a group. -/
def keyColumns (keys : List Key) (encoded : Bytes) : Except Error (List (Nat × Bytes)) :=
  match keys with
  | [] => .ok []
  | [key] => .ok [(key.column, encoded)]
  | keys => (Key.decodeFields encoded).map fun values ↦ (keys.map Key.column).zip values

/-- Fills the columns for a group. -/
def fill (g : Grouping) (bundle : Bundle) (columns : Columns) (entry : Bytes × Buffer) :
    Step Error Columns :=
  match keyColumns g.keys entry.1 with
  | .error e => .failed columns e
  | .ok entries => (columns.putAll entries).andThen (bundle.print entry.2)

/-- The groups in the order in which they are rendered. -/
def ordered (g : Grouping) (order : GroupOrder) : List (Bytes × Buffer) :=
  (order.arrange g.groups.keys).filterMap fun key ↦ g.groups[key]?.map fun buffer ↦ (key, buffer)

/-- No groups, and the same keys. -/
def clear (g : Grouping) : Grouping := { g with groups := ∅ }

end Grouping

end Rollup
