import Rollup.Spec.Parser
import Rollup.Table.Build

/-!
# Running a pipeline over input

A processor gives the lines of its input to the first table of a pipeline, and
counts them.  Input comes in three ways that make no difference to the tables:
line by line, as all bytes at once, or in pieces as a reader happens to deliver
them.  Lines end with a line feed; the last one may lack it, and then counts if
it is not empty.

The first line that fails ends the reading, but not the processor: it can be
given more lines, and can finish.
-/

namespace Rollup

/-! ## Lines -/

namespace Lines

/-- Cuts bytes at line feeds.  `pending` holds the beginning of the first line,
and `done` the lines before it, both back to front; the answer is the complete
lines in order, and the beginning of the next one, back to front again. -/
def cut (pending : Bytes) (done : List Bytes) : Bytes → List Bytes × Bytes
  | [] => (done.reverse, pending)
  | b :: rest =>
    if b = 0x0A then cut [] (pending.reverse :: done) rest else cut (b :: pending) done rest

/-- What is left of the last line when the input ends. -/
def ending (pending : Bytes) : List Bytes :=
  if pending.isEmpty then [] else [pending.reverse]

/-- The lines of some bytes. -/
def of (data : Bytes) : List Bytes :=
  let (lines, pending) := cut [] [] data
  lines ++ ending pending

end Lines

/-- What a reader answers when it is asked for more. -/
inductive ReadAnswer where
  /-- Some bytes, or the end of the input if there are none. -/
  | bytes (data : Bytes)
  /-- Nothing yet; it can be asked again. -/
  | interrupted
  | failed (fault : IoFault)
  deriving DecidableEq, Repr

/-! ## Processors -/

structure Processor where
  table : Table
  /-- The lines so far, those that failed too. -/
  rows : Nat

namespace Processor

/-- A processor for a pipeline that writes to a sink of this behaviour. -/
def new (engine : PatternEngine) (orders : Nat → GroupOrder) (p : Pipeline)
    (behaviour : SinkBehaviour) (threshold : Nat) : Except Error (Processor × List Notice) :=
  (p.build engine orders (.new behaviour threshold)).map fun (table, notices) ↦
    (⟨table, 0⟩, notices)

/-- A processor for the pipeline that a spec denotes. -/
def ofSpec (engine : PatternEngine) (orders : Nat → GroupOrder) (spec : String)
    (behaviour : SinkBehaviour) (threshold : Nat) : Except Error (Processor × List Notice) :=
  match Spec.parse spec with
  | .error refusal => .error (.spec refusal)
  | .ok p => new engine orders p behaviour threshold

variable [NumberReader]

/-- Gives a line, without its line feed, to the pipeline. -/
def pushLine (p : Processor) (line : Bytes) : Step Error Processor :=
  let ⟨table, rows⟩ := p
  (table.push (.ofLine line)).map fun table ↦ ⟨table, rows + 1⟩

/-- Gives lines to the pipeline until one fails. -/
def pushLines (p : Processor) (lines : List Bytes) : Step Error Processor :=
  Step.each pushLine lines p

/-- Gives all lines of some bytes to the pipeline. -/
def process (p : Processor) (data : Bytes) : Step Error Processor := p.pushLines (Lines.of data)

/-- Gives the lines that a reader delivers to the pipeline, as soon as they are
complete.  `pending` is the beginning of the next line, back to front. -/
def readFrom (pending : Bytes) : List ReadAnswer → Processor → Step Error Processor
  | [], p => p.pushLines (Lines.ending pending)
  | .interrupted :: answers, p => readFrom pending answers p
  | .failed fault :: _, p => .failed p (.io fault)
  | .bytes data :: answers, p =>
    if data.isEmpty then p.pushLines (Lines.ending pending)
    else
      let (lines, pending) := Lines.cut pending [] data
      (p.pushLines lines).andThen (readFrom pending answers)

/-- Reads to the end of the input. -/
def read (p : Processor) (answers : List ReadAnswer) : Step Error Processor :=
  readFrom [] answers p

/-- Gives all lines of a file to the pipeline; none if there is no such file. -/
def processFile (p : Processor) : Option Bytes → Step Error Processor
  | some data => p.process data
  | none => .failed p (.io .noSuchFile)

/-- Ends the run: every stage renders what it has, and the output is flushed. -/
def finish (p : Processor) : Step Error Processor × List Notice :=
  let (step, notices) := p.table.finish
  (step.map fun table ↦ { p with table },
    match step.outcome with
    | .ok _ => notices ++ [.processed p.rows]
    | .error _ => notices)

end Processor

/-! ## The sink at the end of a chain -/

/-- The sink of the writer at the end of a chain of tables, if there is one. -/
def Table.sink? : Table → Option Sink
  | .writer out => some out.sink
  | .passthrough out => some out.sink
  | .recorder _ => none
  | .filtered _ _ inner => inner.sink?
  | .projection _ _ next => next.sink?
  | .grouped _ _ next => next.sink?

/-- What the recorder at the end of a chain of tables has been told. -/
def Table.arrivals : Table → Array Arrival
  | .writer _ | .passthrough _ => #[]
  | .recorder arrivals => arrivals
  | .filtered _ _ inner => inner.arrivals
  | .projection _ _ next => next.arrivals
  | .grouped _ _ next => next.arrivals

end Rollup
