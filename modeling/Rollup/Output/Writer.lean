import Rollup.Output.Sink

/-!
# Buffered lines

A writer collects lines and hands them to its sink when more than `threshold`
bytes are waiting.  A flush writes everything, then flushes the sink, and
empties the buffer only when both went well; what could not be written is
written again, from its start, by the next flush.
-/

namespace Rollup

structure Writer where
  buffer : Array UInt8
  threshold : Nat
  sink : Sink

namespace Writer

/-- How many bytes wait before a flush, unless the user says otherwise. -/
def defaultThreshold : Nat := 32768

/-- A writer with nothing to write. -/
def new (behaviour : SinkBehaviour) (threshold : Nat) : Writer :=
  ⟨#[], threshold, Sink.new behaviour⟩

def flush (w : Writer) : Step Error Writer :=
  let step := (w.sink.writeAll w.buffer).andThen Sink.flush
  match step.outcome with
  | .ok _ => .done { w with buffer := #[], sink := step.state }
  | .error e => .failed { w with sink := step.state } e

/-- Adds a line and the line feed behind it, and flushes if that makes more than
the threshold. -/
def writeLine (w : Writer) (line : Bytes) : Step Error Writer :=
  let ⟨buffer, threshold, sink⟩ := w
  let buffer := (buffer.appendList line).push 0x0A
  let w := ⟨buffer, threshold, sink⟩
  if threshold < w.buffer.size then w.flush else .done w

/-- The fields of a row with tabs between them. -/
def tabbed : List Bytes → Bytes
  | [] => []
  | [last] => last
  | field :: next :: rest => field ++ 0x09 :: tabbed (next :: rest)

/-- Adds a row as a line of fields. -/
def writeRow (w : Writer) (fields : List Bytes) : Step Error Writer := w.writeLine (tabbed fields)

end Writer

end Rollup
