import Rollup.Proofs.Codec.Fields

/-!
# Blobs in a reused buffer

`Blob.write` puts fields into a buffer place by place, each with its length in front but the one in
the last place.  What it leaves there is the blob of the fields (`write_eq_done`): the key of all of
them but the last, and then the last one as it is (`encode_concat_eq_ok`).  The last field may look
like a field with its length in front; a reader that knows how many fields there are does not look
at it that way, and gets all fields back (`decode_write`).
-/

namespace Rollup.Blob

open Outcome

variable {front values : List Bytes} {last written blob : Bytes} {count place : Nat}

/-- Puts a field with its length behind what is written, or the field alone if it is in the last of
`count` places. -/
def append (count : Nat) (written : Bytes) (placed : Bytes × Nat) : Step Error Bytes :=
  if placed.2 + 1 = count then .done (written ++ placed.1)
  else .ofExcept written ((Key.encodeField placed.1).map (written ++ ·))

/-- Writes the blob of some fields to a buffer that may still hold another one, and is emptied
first. -/
def write (buffer : Bytes) (fields : List Bytes) : Step Error Bytes :=
  Step.each (append fields.length) fields.zipIdx (buffer.take 0)

/-! ## Writing place by place -/

theorem append_last (written last : Bytes) (h : place + 1 = count) :
    append count written (last, place) = .done (written ++ last) := by
  rw [append, if_pos h]

theorem append_eq_done {value : Bytes} (h : place + 1 ≠ count) :
    append count written (value, place) = .done blob ↔
      ∃ bytes, Key.encodeField value = .ok bytes ∧ blob = written ++ bytes := by
  rw [append, if_neg h, Step.ofExcept_eq_done, map_eq_ok]
  simp only [eq_comm]

/-- In front of the last place, fields are written as those of a key. -/
theorem each_append_eq_done (h : place + front.length < count) :
    Step.each (append count) (front.zipIdx place) written = .done blob ↔
      ∃ bytes, Key.encodeFields front = .ok bytes ∧ blob = written ++ bytes := by
  induction front generalizing place written with
  | nil =>
    rw [List.zipIdx_nil, Step.each_nil]
    constructor
    · rintro ⟨⟩
      exact ⟨[], rfl, (List.append_nil _).symm⟩
    · rintro ⟨bytes, ⟨⟩, rfl⟩
      rw [List.append_nil]
  | cons value front ih =>
    rw [List.length_cons] at h
    rw [List.zipIdx_cons, Step.each_cons, Step.andThen_eq_done]
    simp only [append_eq_done (Nat.ne_of_lt (by omega : place + 1 < count)),
      ih (by omega : place + 1 + front.length < count), Key.encodeFields_cons_eq_ok]
    constructor
    · rintro ⟨_, ⟨bytes, hbytes, rfl⟩, more, hmore, rfl⟩
      exact ⟨bytes ++ more, ⟨bytes, more, hbytes, hmore, rfl⟩, List.append_assoc ..⟩
    · rintro ⟨_, ⟨bytes, more, hbytes, hmore, rfl⟩, rfl⟩
      exact ⟨_, ⟨bytes, hbytes, rfl⟩, more, hmore, (List.append_assoc ..).symm⟩

theorem write_concat_eq_done (buffer : Bytes) :
    write buffer (front ++ [last]) = .done blob ↔
      ∃ bytes, Key.encodeFields front = .ok bytes ∧ blob = bytes ++ last := by
  have hcount : (front ++ [last]).length = front.length + 1 := by simp
  have hfront (out : Bytes) : Step.each (append (front.length + 1)) front.zipIdx [] = .done out ↔
      ∃ bytes, Key.encodeFields front = .ok bytes ∧ out = bytes :=
    each_append_eq_done (by omega)
  rw [write, hcount, List.take_zero, List.zipIdx_append, Step.each_append, Step.andThen_eq_done]
  simp only [hfront, List.zipIdx_singleton, Step.each_cons]
  rw [Nat.zero_add]
  constructor
  · rintro ⟨bytes, ⟨_, hbytes, rfl⟩, hlast⟩
    rw [append_last _ _ rfl, Step.done_andThen, Step.each_nil] at hlast
    cases hlast
    exact ⟨bytes, hbytes, rfl⟩
  · rintro ⟨bytes, hbytes, rfl⟩
    refine ⟨bytes, ⟨bytes, hbytes, rfl⟩, ?_⟩
    rw [append_last _ _ rfl, Step.done_andThen, Step.each_nil]

/-! ## The blob of some fields -/

theorem encode_cons_eq_ok {value : Bytes} (h : values ≠ []) :
    encode (value :: values) = .ok blob ↔
      ∃ bytes more, Key.encodeField value = .ok bytes ∧ encode values = .ok more ∧
        blob = bytes ++ more := by
  obtain ⟨next, rest, rfl⟩ := List.exists_cons_of_ne_nil h
  rw [encode]
  cases Key.encodeField value with
  | error e => simp
  | ok bytes =>
    simp only [map_eq_ok, Except.ok.injEq, exists_and_left, exists_eq_left']
    simp only [eq_comm]

theorem encode_concat_eq_ok :
    encode (front ++ [last]) = .ok blob ↔
      ∃ bytes, Key.encodeFields front = .ok bytes ∧ blob = bytes ++ last := by
  induction front generalizing blob with
  | nil =>
    constructor
    · rintro ⟨⟩
      exact ⟨[], rfl, rfl⟩
    · rintro ⟨bytes, ⟨⟩, rfl⟩
      rfl
  | cons value front ih =>
    rw [List.cons_append, encode_cons_eq_ok (List.concat_ne_nil last front)]
    simp only [ih, Key.encodeFields_cons_eq_ok]
    constructor
    · rintro ⟨bytes, _, hbytes, ⟨more, hmore, rfl⟩, rfl⟩
      exact ⟨bytes ++ more, ⟨bytes, more, hbytes, hmore, rfl⟩, (List.append_assoc ..).symm⟩
    · rintro ⟨_, ⟨bytes, more, hbytes, hmore, rfl⟩, rfl⟩
      exact ⟨bytes, more ++ last, hbytes, ⟨more, hmore, rfl⟩, List.append_assoc ..⟩

/-- What the buffer held before is of no influence. -/
theorem write_eq_done {buffer : Bytes} :
    write buffer values = .done blob ↔ encode values = .ok blob := by
  rcases List.eq_nil_or_concat' values with rfl | ⟨front, last, rfl⟩
  · constructor <;> rintro ⟨⟩ <;> rfl
  · rw [write_concat_eq_done, encode_concat_eq_ok]

/-- Fields of which all but the last are short enough are written, and read back by a reader who
knows their number: those in front are written as a key, the last one as it is.  So of so many
fields, only the same ones leave the same bytes in whatever buffers. -/
theorem decode_write :
    (∀ (buffer : Bytes) (values : List Bytes) (hne : values ≠ []),
      (∀ value ∈ values.dropLast, value.length < 1 <<< 32) →
      ∃ front blob, Key.encodeFields values.dropLast = .ok front ∧
        blob = front ++ values.getLast hne ∧ write buffer values = .done blob ∧
        encode values = .ok blob ∧ decode values.length blob = .ok values) ∧
    (∀ (buffer buffer' : Bytes) (values values' : List Bytes) (blob : Bytes),
      values.length = values'.length → write buffer values = .done blob →
      write buffer' values' = .done blob → values = values') := by
  constructor
  · intro buffer values hne hshort
    obtain ⟨front, hfront⟩ := Key.exists_encodeFields hshort
    have hencode : encode values = .ok (front ++ values.getLast hne) := by
      conv_lhs => rw [← List.dropLast_append_getLast hne]
      exact encode_concat_eq_ok.2 ⟨front, hfront, rfl⟩
    exact ⟨front, _, hfront, rfl, write_eq_done.2 hencode, hencode, decode_of_encode hencode⟩
  · intro buffer buffer' values values' blob hlength h h'
    have hread := decode_of_encode (write_eq_done.1 h)
    rw [hlength, decode_of_encode (write_eq_done.1 h')] at hread
    exact (Except.ok.inj hread).symm

/-- A last field that looks like an empty field and one more: a reader who expects four fields
would find it so, but no other three fields leave these bytes. -/
theorem decode_write_alike :
    let values : List Bytes := [[97, 98], [], [0, 99]]
    values ≠ [] ∧ (∀ value ∈ values.dropLast, value.length < 1 <<< 32) ∧
      write [0xFF] values = .done [4, 97, 98, 0, 0, 99] ∧
      decode 3 [4, 97, 98, 0, 0, 99] = .ok values ∧
      decode 4 [4, 97, 98, 0, 0, 99] = .ok [[97, 98], [], [], [99]] ∧
      ∀ others, values.length = others.length → write [] others = .done [4, 97, 98, 0, 0, 99] →
        values = others := by
  intro values
  have hne : values ≠ [] := List.cons_ne_nil _ _
  have hshort : ∀ value ∈ values.dropLast, value.length < 1 <<< 32 := by decide
  obtain ⟨front, blob, hfront, rfl, hwrite, -, hread⟩ := decode_write.1 [0xFF] values hne hshort
  obtain rfl : [4, 97, 98, 0] = front := Except.ok.inj hfront
  refine ⟨hne, hshort, hwrite, hread, by decide, fun others hlength hothers ↦ ?_⟩
  exact decode_write.2 [0xFF] [] values others _ hlength hwrite hothers

end Rollup.Blob
