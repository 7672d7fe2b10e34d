import Rollup.Spec.Printer
import Rollup.Table.Aggregator

/-!
# Notices

A run reports what it does in notices, for whoever wants to follow it.  They are
no part of the output.
-/

namespace Rollup

inductive Notice where
  /-- A pipeline in normal form is about to be built. -/
  | compiling (pipeline : Pipeline)
  | aggregating (keys : Nat) (aggregates : List Aggregate) (columns : Nat)
  | packing (slots : List SlotSize) (layout : Layout) (bucket : Nat)
  | dropped (rows : Nat)
  | rendering (groups rows : Nat)
  /-- The run is over. -/
  | processed (rows : Nat)
  deriving DecidableEq, Repr

namespace Notice

/-- Items between brackets, with commas between them. -/
def bracketed (items : List String) : String := "[" ++ String.intercalate ", " items ++ "]"

/-- A name with its fields between braces. -/
def record (name : String) (fields : List (String × String)) : String :=
  name ++ " \x7b " ++
    String.intercalate ", " (fields.map fun (field, value) ↦ field ++ ": " ++ value) ++ " \x7d"

def carriedText (c : CarriedField) : String :=
  record "CarriedField" [("field", toString c.field), ("column", toString c.column)]

def goalText : Goal → String
  | .lowest => "Min"
  | .highest => "Max"

def aggregateText : Aggregate → String
  | .nothing => "Nothing"
  | .count column => record "Count" [("column", toString column)]
  | .sum field column => record "Sum" [("field", toString field), ("column", toString column)]
  | .extremum goal field column =>
    record (goalText goal) [("field", toString field), ("column", toString column)]
  | .bestRow goal field carried =>
    record ("Arg" ++ goalText goal)
      [("field", toString field), ("carried", bracketed (carried.map carriedText))]
  | .distinct field column =>
    record "CountDistinct" [("field", toString field), ("column", toString column)]

def text : Notice → String
  | .compiling pipeline => "compiling pipeline: " ++ pipeline.render
  | .aggregating keys aggregates columns =>
    s!"stage: {keys} keys, aggregators " ++ bracketed (aggregates.map aggregateText) ++
      s!", {columns} columns"
  | .packing slots layout bucket =>
    s!"packing {slots.length} aggregators into {bucket} bytes (slots " ++
      bracketed (slots.map fun s ↦ s!"({s.size}, {s.align})") ++ ", offsets " ++
      bracketed (layout.offsets.map toString) ++ ")"
  | .dropped rows => s!"filters dropped {rows} rows"
  | .rendering groups rows => s!"rendering {groups} groups from {rows} rows"
  | .processed rows => s!"processed {rows} input rows"

/-- How much a notice matters. -/
def level : Notice → String
  | .processed _ => "INFO"
  | _ => "DEBUG"

end Notice

end Rollup
