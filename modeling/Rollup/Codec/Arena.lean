import Rollup.Codec.Varint
import Rollup.Error

/-!
# Blobs behind handles

An arena keeps byte strings of any length for aggregates whose own state has a
fixed size.  Storing one gives a handle; the handles are 0, 1, 2, ….

All blobs lie in one buffer, each with its length in front.  An update writes
over the old blob when the new one, with its length, is no longer; otherwise
the new one goes to the end of the buffer, and the old place stays unused.

A blob of 2³² bytes or more has no entry.  An update with it changes nothing; but
to store it takes a handle, which nobody is given, and which leads to the end of
the buffer, where the next entry will begin.
-/

namespace Rollup

structure Arena where
  bytes : Array UInt8
  /-- Where each blob begins, by handle. -/
  offsets : Array Nat
  deriving DecidableEq, Repr

namespace Arena

def empty : Arena := ⟨#[], #[]⟩

/-- The number of handles. -/
def size (a : Arena) : Nat := a.offsets.size

/-- A blob with its length in front. -/
def entry (blob : Bytes) : Except Error Bytes :=
  if blob.length < 1 <<< 32 then .ok (Varint.encode blob.length.toUInt32 ++ blob)
  else .error (.keyTooLong blob.length)

/-- The length of the blob that begins at `offset`, and the number of bytes that
this length takes. -/
def header (a : Arena) (offset : Nat) : Except Error (Nat × Nat) :=
  match Varint.decode? (a.bytes.extract offset (offset + 5)).toList with
  | some (length, taken) => .ok (length.toNat, taken)
  | none => .error (.outOfRange .encoding)

/-- Where the blob of a handle begins. -/
def offset (a : Arena) (handle : Nat) : Except Error Nat :=
  match a.offsets[handle]? with
  | some offset => .ok offset
  | none => .error (.outOfRange .handle)

/-- The blob of a handle. -/
def load (a : Arena) (handle : Nat) : Except Error Bytes := do
  let offset ← a.offset handle
  let (length, taken) ← a.header offset
  let start := offset + taken
  if start + length ≤ a.bytes.size then return (a.bytes.extract start (start + length)).toList
  else throw (.outOfRange .encoding)

/-- Keeps a new blob, and gives its handle.  A blob that is too long is not kept, but its
handle is used up. -/
def store (a : Arena) (blob : Bytes) : Arena × Except Error Nat :=
  if 1 <<< 32 ≤ a.size then (a, .error (.defect .handlesExhausted))
  else
    let handle := a.size
    let offsets := a.offsets.push a.bytes.size
    match entry blob with
    | .ok e => (⟨a.bytes ++ e.toArray, offsets⟩, .ok handle)
    | .error e => (⟨a.bytes, offsets⟩, .error e)

/-- Writes bytes over those from `offset` on. -/
def overwrite (bytes : Array UInt8) (offset : Nat) : Bytes → Except Error (Array UInt8)
  | [] => .ok bytes
  | b :: rest =>
    if h : offset < bytes.size then overwrite (bytes.set offset b) (offset + 1) rest
    else .error (.outOfRange .encoding)

/-- Puts another blob behind a handle. -/
def update (a : Arena) (handle : Nat) (blob : Bytes) : Except Error Arena :=
  if h : handle < a.offsets.size then do
    let offset := a.offsets[handle]
    let (length, taken) ← a.header offset
    let e ← entry blob
    if e.length ≤ taken + length then
      let bytes ← overwrite a.bytes offset e
      return { a with bytes }
    else
      let start := a.bytes.size
      return ⟨a.bytes ++ e.toArray, a.offsets.set handle start⟩
  else .error (.outOfRange .handle)

end Arena

end Rollup
