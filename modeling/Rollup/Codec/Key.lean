import Rollup.Codec.Varint
import Rollup.Row

/-!
# Keys of several fields

Rows that are grouped by several fields are told apart by one byte string: the
key fields in order, each with its length in front.  Two lists of fields have
the same string only if they are equal, and the fields can be taken out of it
again.
-/

namespace Rollup

/-- A field to group by, and the column it is printed in. -/
structure Key where
  field : Nat
  column : Nat
  deriving DecidableEq, Repr

namespace Key

/-- A field with its length in front. -/
def encodeField (value : Bytes) : Except Error Bytes :=
  if value.length < 1 <<< 32 then .ok (Varint.encode value.length.toUInt32 ++ value)
  else .error (.keyTooLong value.length)

/-- The fields one after the other, each with its length in front. -/
def encodeFields : List Bytes → Except Error Bytes
  | [] => .ok []
  | value :: rest =>
    match encodeField value with
    | .error e => .error e
    | .ok front => (encodeFields rest).map (front ++ ·)

/-- The fields of a string made by `encodeFields`. -/
def decodeFields (bytes : Bytes) : Except Error (List Bytes) :=
  match bytes with
  | [] => .ok []
  | b :: rest =>
    match h : Varint.splitField? (b :: rest) with
    | none => .error (.outOfRange .encoding)
    | some (field, left) =>
      have := Varint.splitField?_length h
      (decodeFields left).map (field :: ·)
  termination_by bytes.length
  decreasing_by assumption

/-- Puts a field of a row, with its length, behind what is written. -/
def append (row : Row) (written : Bytes) (field : Nat) : Step Error Bytes :=
  .ofExcept written do
    let value ← row.field field
    let encoded ← encodeField value
    return written ++ encoded

/-- Writes the encoded key of a row to a buffer that may still hold another key, and is
emptied first. -/
def write (_buffer : Bytes) (keys : List Key) (row : Row) : Step Error Bytes :=
  Step.each (append row) (keys.map Key.field) []

/-- The encoded key of a row. -/
def serialize (keys : List Key) (row : Row) : Except Error Bytes :=
  (write [] keys row).result

end Key

end Rollup
