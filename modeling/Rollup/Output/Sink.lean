import Rollup.Outcome
import Rollup.Error

/-!
# Sinks

A sink is where output bytes end up: a file, a pipe, a terminal.  It may take
fewer bytes than it is offered, and any of its calls may fail.  What it will
answer is fixed by a `SinkBehaviour`, and what it has been asked is recorded
call by call, so that two programs that treat a sink alike leave the same
record.  A write call that was interrupted is made again and leaves no trace: only
the calls that were answered are numbered and recorded.
-/

namespace Rollup

/-- How a sink answers its calls, which are numbered from zero. -/
structure SinkBehaviour where
  /-- How many of the offered bytes a write call takes, or how it fails. -/
  write : (call offered : Nat) → Except IoFault Nat
  /-- How a flush call ends. -/
  flush : (call : Nat) → Except IoFault Unit

/-- The sink that takes everything at once and never fails. -/
def SinkBehaviour.reliable : SinkBehaviour := ⟨fun _ offered ↦ .ok offered, fun _ ↦ .ok ()⟩

/-- A call that a sink has answered. -/
inductive SinkCall where
  /-- A write call that took these bytes. -/
  | wrote (bytes : Bytes)
  | writeFailed (fault : IoFault)
  | flushed
  | flushFailed (fault : IoFault)
  deriving DecidableEq, Repr

/-- The bytes a call brought into the sink. -/
def SinkCall.bytes : SinkCall → Bytes
  | .wrote bytes => bytes
  | _ => []

/-- Whether the call was a flush, successful or not. -/
def SinkCall.isFlush : SinkCall → Bool
  | .flushed | .flushFailed _ => true
  | _ => false

structure Sink where
  behaviour : SinkBehaviour
  /-- The number of write calls so far. -/
  writes : Nat
  /-- The number of flush calls so far. -/
  flushes : Nat
  /-- All calls in order. -/
  calls : Array SinkCall

namespace Sink

/-- A sink that has not been called yet. -/
def new (behaviour : SinkBehaviour) : Sink := ⟨behaviour, 0, 0, #[]⟩

/-- All bytes the sink has taken. -/
def received (s : Sink) : Bytes := s.calls.toList.flatMap SinkCall.bytes

def recordWrite (s : Sink) (call : SinkCall) : Sink :=
  { s with writes := s.writes + 1, calls := s.calls.push call }

def recordFlush (s : Sink) (call : SinkCall) : Sink :=
  { s with flushes := s.flushes + 1, calls := s.calls.push call }

/-- Offers the bytes of `buffer` from `position` on until the sink has taken them
all.  It is an error if the sink fails, or takes nothing. -/
def writeFrom (buffer : Array UInt8) (position : Nat) (s : Sink) : Step Error Sink :=
  if position < buffer.size then
    let offered := buffer.size - position
    match s.behaviour.write s.writes offered with
    | .error fault => .failed (s.recordWrite (.writeFailed fault)) (.io fault)
    | .ok answer =>
      let taken := min answer offered
      let s := s.recordWrite (.wrote (buffer.extract position (position + taken)).toList)
      if taken = 0 then .failed s (.io .nothingWritten)
      else writeFrom buffer (position + taken) s
  else .done s
  termination_by buffer.size - position
  decreasing_by omega

/-- Writes a whole buffer; an empty one takes no call. -/
def writeAll (buffer : Array UInt8) (s : Sink) : Step Error Sink := writeFrom buffer 0 s

/-- Asks the sink to pass on what it has taken. -/
def flush (s : Sink) : Step Error Sink :=
  match s.behaviour.flush s.flushes with
  | .ok _ => .done (s.recordFlush .flushed)
  | .error fault => .failed (s.recordFlush (.flushFailed fault)) (.io fault)

end Sink

end Rollup
