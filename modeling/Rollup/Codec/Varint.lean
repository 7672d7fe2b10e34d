import Rollup.Text.Utf8

/-!
# Lengths in one to five bytes

Fields inside keys and blobs carry their length in front, in a form that is
short for short fields.  The number of one bits at the bottom of the first byte
tells the form, so that one byte is enough to know how many follow.

| Values | Bytes | Stored, lowest byte first |
|---|---|---|
| below 2⁷ | 1 | `2 x` |
| below 2¹⁴ | 2 | `4 x + 1` |
| below 2²¹ | 3 | `8 x + 3` |
| below 2²⁸ | 4 | `16 x + 7` |
| all | 5 | the byte 15, then `x` |

In the long form a reader looks at the low four bits of the first byte only.
-/

namespace Rollup.Varint

/-- The `count` lowest bytes of `n`, lowest first. -/
def littleEndian : (count n : Nat) → Bytes
  | 0, _ => []
  | count + 1, n => n.toUInt8 :: littleEndian count (n / 256)

/-- The number with these bytes, lowest first. -/
def ofLittleEndian (bytes : Bytes) : Nat := bytes.foldr (fun b n ↦ b.toNat + 256 * n) 0

@[simp] theorem length_littleEndian (count n : Nat) : (littleEndian count n).length = count := by
  induction count generalizing n with
  | zero => rfl
  | succ count ih => simp [littleEndian, ih]

/-- The bytes of a length. -/
def encode (x : UInt32) : Bytes :=
  let n := x.toNat
  if n < 1 <<< 7 then littleEndian 1 (2 * n)
  else if n < 1 <<< 14 then littleEndian 2 (4 * n + 1)
  else if n < 1 <<< 21 then littleEndian 3 (8 * n + 3)
  else if n < 1 <<< 28 then littleEndian 4 (16 * n + 7)
  else 0x0F :: littleEndian 4 n

/-- How many bytes follow the first one. -/
def followers (lead : UInt8) : Nat :=
  if lead % 2 = 0 then 0
  else if lead % 4 = 1 then 1
  else if lead % 8 = 3 then 2
  else if lead % 16 = 7 then 3
  else 4

/-- The value at the front and the number of bytes it takes; none when some of
these are missing. -/
def decode? : Bytes → Option (UInt32 × Nat)
  | [] => none
  | lead :: rest =>
    let count := followers lead
    let behind := rest.take count
    if behind.length < count then none
    else if count = 4 then some ((ofLittleEndian behind).toUInt32, 5)
    else some ((ofLittleEndian (lead :: behind) / (1 <<< (count + 1))).toUInt32, count + 1)

/-- Takes a length and as many bytes off the front. -/
def splitField? (bytes : Bytes) : Option (Bytes × Bytes) :=
  match decode? bytes with
  | none => none
  | some (length, taken) =>
    let behind := bytes.drop taken
    let field := behind.take length.toNat
    if field.length < length.toNat then none else some (field, behind.drop length.toNat)

theorem decode?_taken_pos {bytes : Bytes} {x : UInt32} {taken : Nat}
    (h : decode? bytes = some (x, taken)) : 0 < taken := by
  unfold decode? at h
  split at h
  · cases h
  · dsimp only at h
    split at h
    · cases h
    · split at h <;> cases h <;> omega

theorem splitField?_length {bytes field rest : Bytes}
    (h : splitField? bytes = some (field, rest)) : rest.length < bytes.length := by
  unfold splitField? at h
  split at h
  · cases h
  · rename_i length taken hd
    have hpos := decode?_taken_pos hd
    have hne : bytes ≠ [] := by rintro rfl; simp [decode?] at hd
    have := List.length_pos_iff.2 hne
    dsimp only at h
    split at h
    · cases h
    · cases h
      simp only [List.length_drop]
      omega

end Rollup.Varint
