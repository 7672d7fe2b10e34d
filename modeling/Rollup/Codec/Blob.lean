import Rollup.Codec.Key

/-!
# Blobs of a fixed number of fields

The fields that an aggregate carries from a row are kept in one byte string.
How many there are is known from the aggregate, so the last one needs no
length: it goes to the end.
-/

namespace Rollup.Blob

/-- The fields one after the other, each but the last with its length in front. -/
def encode : List Bytes → Except Error Bytes
  | [] => .ok []
  | [last] => .ok last
  | value :: next :: rest =>
    match Key.encodeField value with
    | .error e => .error e
    | .ok front => (encode (next :: rest)).map (front ++ ·)

/-- The `count` fields of a blob. -/
def decode : (count : Nat) → Bytes → Except Error (List Bytes)
  | 0, _ => .ok []
  | 1, bytes => .ok [bytes]
  | count + 2, bytes =>
    match Varint.splitField? bytes with
    | none => .error (.outOfRange .encoding)
    | some (field, rest) => (decode (count + 1) rest).map (field :: ·)

end Rollup.Blob
