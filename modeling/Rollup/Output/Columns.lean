import Rollup.Error

/-!
# Columns of a row under construction

A stage fills the columns of its next output row in any order.  A column keeps
its value from row to row until it is written again, and one that was never
written is empty.
-/

namespace Rollup

abbrev Columns := Array Bytes

namespace Columns

/-- Columns of which none has been written. -/
def blank (count : Nat) : Columns := Array.replicate count []

/-- Writes a column. -/
def put (columns : Columns) (column : Nat) (value : Bytes) : Except Error Columns :=
  if column < columns.size then .ok (columns.setIfInBounds column value)
  else .error (.outOfRange .column)

/-- Writes several columns, as far as they exist. -/
def putAll (columns : Columns) (entries : List (Nat × Bytes)) : Step Error Columns :=
  Step.each (fun columns (column, value) ↦ .ofExcept columns (columns.put column value))
    entries columns

end Columns

end Rollup
