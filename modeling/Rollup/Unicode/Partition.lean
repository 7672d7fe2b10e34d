import Rollup.Unicode.Ranges

/-!
# Partitions of the code points

Several properties of the standard sort all code points into parts: general
categories, scripts, ages, classes of characters at text boundaries.  A
`Partition` is the table of such a property together with the names that its
values go by.  A value need not be a single part: the category of all letters,
for one, is five of them.
-/

namespace Rollup.Unicode

/-- A table that gives every code point a label, and the names of the values
that one may ask for. -/
structure Partition where
  /-- The runs of code points with the same label, as `labelledRuns` reads
  them. -/
  table : String
  /-- The names of the values, in lower case and without separators, each with
  the labels of the code points that have the value. -/
  values : List (List String × List String)
  deriving DecidableEq, Repr

namespace Partition

/-- The code points whose label is one of `labels`. -/
def ranges (p : Partition) (labels : List String) : Ranges :=
  Ranges.ofList (((labelledRuns p.table).filter fun run ↦ labels.contains run.2).map (·.1))

/-- The labels that the value with this name stands for. -/
def labels? (p : Partition) (name : String) : Option (List String) :=
  (p.values.find? fun value ↦ value.1.contains name).map (·.2)

/-- The code points that have the value with this name. -/
def named? (p : Partition) (name : String) : Option Ranges := (p.labels? name).map p.ranges

end Partition

end Rollup.Unicode
