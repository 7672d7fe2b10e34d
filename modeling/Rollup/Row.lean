import Rollup.Error

/-!
# Rows

A row is a line together with the byte spans of its fields.  The fields of an
input line are its maximal runs of bytes other than spaces and tabs, so they
are never empty; the fields of a row that one stage hands to the next lie back
to back in the line and may be empty.

Asking for a field behind the last one gives the empty string.  A span that
does not lie in the line cannot be read; no row made by this library has one.
-/

namespace Rollup

/-- A line and the spans of its fields, each from its first byte up to, and not
including, its end. -/
structure Row where
  line : Bytes
  spans : List (Nat × Nat)
  deriving DecidableEq, Repr

namespace Row

/-- The bytes of a span. -/
def slice (line : Bytes) (span : Nat × Nat) : Except Error Bytes :=
  if span.1 ≤ span.2 ∧ span.2 ≤ line.length then .ok ((line.drop span.1).take (span.2 - span.1))
  else .error (.outOfRange .span)

/-- The bytes of a field; empty behind the last one. -/
def field (row : Row) (index : Nat) : Except Error Bytes :=
  match row.spans[index]? with
  | some span => slice row.line span
  | none => .ok []

/-- All fields in order. -/
def fields (row : Row) : Except Error (List Bytes) := row.spans.mapM (slice row.line)

/-! ## Input lines -/

/-- The bytes between fields. -/
def isSeparator (b : UInt8) : Bool := b = 0x20 || b = 0x09

/-- The spans of the fields of a line of which the bytes before `position` have
been read.  The current field began at `start`; `done` holds the spans of
those before it, back to front. -/
def spansFrom (done : List (Nat × Nat)) (start position : Nat) : Bytes → List (Nat × Nat)
  | [] => (if start < position then (start, position) :: done else done).reverse
  | b :: rest =>
    if isSeparator b then
      spansFrom (if start < position then (start, position) :: done else done)
        (position + 1) (position + 1) rest
    else spansFrom done start (position + 1) rest

/-- The spans of the fields of an input line. -/
def fieldSpans (line : Bytes) : List (Nat × Nat) := spansFrom [] 0 0 line

/-- The row of an input line. -/
def ofLine (line : Bytes) : Row := ⟨line, fieldSpans line⟩

/-! ## Rows between stages -/

/-- The spans of fields of these lengths that lie back to back from `start`. -/
def packedSpans (start : Nat) : List Bytes → List (Nat × Nat)
  | [] => []
  | f :: rest => (start, start + f.length) :: packedSpans (start + f.length) rest

/-- The row with these fields back to back. -/
def ofFields (fields : List Bytes) : Row := ⟨fields.flatten, packedSpans 0 fields⟩

end Row

end Rollup
