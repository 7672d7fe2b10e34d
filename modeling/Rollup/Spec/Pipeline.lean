import Rollup.Goal

/-!
# Pipelines

A spec denotes a *pipeline*: a chain of stages, each of which takes rows and
hands rows to the next one.  A stage first drops the rows that one of its
filters refuses, and then does one of two things with the others:

* it *projects* them, printing some of their fields; or
* it *aggregates* them: rows that agree on the key fields form a group, and
  every group becomes one row of keys and aggregates.

Fields are numbered from zero.  A projecting stage that lists no field is a
special case.  At the end of a pipeline it prints field 0; before the end it
hands on the rows that it keeps unchanged, and all it does is filter.
-/

namespace Rollup

/-- Keeps the rows in which `pattern` matches somewhere in the field. -/
structure Filter where
  field : Nat
  pattern : String
  deriving DecidableEq, Repr

/-- One item of an aggregating stage. -/
inductive Component where
  /-- Groups by a field, and prints it. -/
  | key (field : Nat)
  /-- The sum of a field. -/
  | sum (field : Nat)
  /-- The least or greatest value of the first field.  When more fields follow,
  these are printed instead of the value, from the row that had it. -/
  | extremum (goal : Goal) (fields : List Nat)
  /-- The number of rows. -/
  | count
  /-- The number of different values of a field. -/
  | distinct (field : Nat)
  deriving DecidableEq, Repr

/-- The number of columns the item prints. -/
def Component.width : Component → Nat
  | .extremum _ fields => max 1 (fields.length - 1)
  | _ => 1

@[simp] theorem Component.width_pos (c : Component) : 0 < c.width := by
  cases c <;> simp only [Component.width] <;> omega

/-- What a stage does with the rows its filters keep. -/
inductive Body where
  | project (fields : List Nat)
  | aggregate (components : List Component)
  deriving DecidableEq, Repr

structure Stage where
  filters : List Filter
  body : Body
  deriving DecidableEq, Repr

namespace Stage

/-- A stage without columns of its own. -/
def isImplicit (s : Stage) : Bool := s.body = .project []

/-- The stage that prints field 0 of every row. -/
def passthrough : Stage := ⟨[], .project []⟩

@[simp] theorem isImplicit_passthrough : passthrough.isImplicit = true := rfl

/-- The widths of the stage's items, in order. -/
def widths (s : Stage) : List Nat :=
  match s.body with
  | .project fields => fields.map fun _ ↦ 1
  | .aggregate components => components.map Component.width

end Stage

structure Pipeline where
  stages : List Stage
  deriving DecidableEq, Repr

namespace Pipeline

/-- Whether some stage groups by a key. -/
def hasKey (p : Pipeline) : Bool :=
  p.stages.any fun s ↦ match s.body with
    | .project _ => false
    | .aggregate components => components.any fun c ↦ match c with
      | .key _ => true
      | _ => false

/-! ## Normal form

An implicit stage before the end only filters, so its filters can be put in
front of those of the next stage.  In normal form this has been done: only the
last stage can be implicit, and an implicit stage without filters stands only
for itself. -/

/-- Puts `pending` in front of the first stage that stays, and drops the
implicit stages before the last one after collecting their filters. -/
def handOn (pending : List Filter) : List Stage → List Stage
  | [] => []
  | [last] => [{ last with filters := pending ++ last.filters }]
  | s :: next :: rest =>
    if s.isImplicit then handOn (pending ++ s.filters) (next :: rest)
    else { s with filters := pending ++ s.filters } :: handOn [] (next :: rest)

/-- A stage that neither filters nor prints columns of its own. -/
def isIdle (s : Stage) : Bool := s.isImplicit && s.filters.isEmpty

/-- The same pipeline in normal form. -/
def normalize (p : Pipeline) : Pipeline :=
  match (handOn [] p.stages).filter fun s ↦ !isIdle s with
  | [] => ⟨[.passthrough]⟩
  | stages => ⟨stages⟩

end Pipeline

end Rollup
