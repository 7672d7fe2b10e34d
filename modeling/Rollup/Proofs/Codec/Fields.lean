import Rollup.Codec.Blob
import Rollup.Proofs.Codec.Varint
import Rollup.Proofs.Outcome

/-!
# Reading back lists of fields

Keys of several fields and the blobs of carried fields are lists of byte
strings written one after the other.  Both can be taken apart again
(`Key.decodeFields_of_encodeFields`, `Blob.decode_of_encode`), so different
lists never share an encoding.
-/

namespace Rollup

open Outcome

namespace Key

theorem encodeField_eq_ok {value front : Bytes} :
    encodeField value = .ok front ↔
      value.length < 1 <<< 32 ∧ front = Varint.encode value.length.toUInt32 ++ value := by
  unfold encodeField
  split
  · rename_i h
    rw [Except.ok.injEq, and_iff_right h, eq_comm]
  · rename_i h
    refine ⟨fun heq ↦ ?_, fun heq ↦ absurd heq.1 h⟩
    cases heq

theorem encodeFields_cons_eq_ok {value bytes : Bytes} {rest : List Bytes} :
    encodeFields (value :: rest) = .ok bytes ↔
      ∃ front back, encodeField value = .ok front ∧ encodeFields rest = .ok back ∧
        front ++ back = bytes := by
  rw [encodeFields]
  cases encodeField value with
  | error e => simp
  | ok front => simp [map_eq_ok]

theorem encodeFields_eq_ok {values : List Bytes} {bytes : Bytes} :
    encodeFields values = .ok bytes ↔
      ∃ encodings, values.mapM encodeField = .ok encodings ∧ encodings.flatten = bytes := by
  induction values generalizing bytes with
  | nil =>
    constructor
    · rintro ⟨⟩
      exact ⟨[], rfl, rfl⟩
    · rintro ⟨encodings, ⟨⟩, rfl⟩
      rfl
  | cons value rest ih =>
    rw [encodeFields_cons_eq_ok]
    simp only [ih, mapM_cons_eq_ok]
    constructor
    · rintro ⟨front, _, hfront, ⟨encodings, hencodings, rfl⟩, rfl⟩
      exact ⟨front :: encodings, ⟨front, encodings, hfront, hencodings, rfl⟩, List.flatten_cons⟩
    · rintro ⟨_, ⟨front, encodings, hfront, hencodings, rfl⟩, rfl⟩
      exact ⟨front, encodings.flatten, hfront, ⟨encodings, hencodings, rfl⟩, List.flatten_cons.symm⟩

/-- The fields of a key that is not empty, one after the other. -/
theorem decodeFields_of_ne_nil {bytes : Bytes} (h : bytes ≠ []) :
    decodeFields bytes = match Varint.splitField? bytes with
      | none => .error (.outOfRange .encoding)
      | some (field, left) => (decodeFields left).map (field :: ·) := by
  cases bytes with
  | nil => exact absurd rfl h
  | cons b rest =>
    rw [decodeFields]
    split
    · rename_i hnone
      rw [hnone]
    · rename_i field left hsome
      dsimp only
      rw [hsome]

theorem decodeFields_of_encodeFields {values : List Bytes} {bytes : Bytes}
    (h : encodeFields values = .ok bytes) : decodeFields bytes = .ok values := by
  induction values generalizing bytes with
  | nil => cases h; simp [decodeFields]
  | cons value rest ih =>
    obtain ⟨front, back, hfront, hback, rfl⟩ := encodeFields_cons_eq_ok.1 h
    obtain ⟨hlength, rfl⟩ := encodeField_eq_ok.1 hfront
    have hne : Varint.encode value.length.toUInt32 ++ value ++ back ≠ [] := by
      have hpos := Varint.encode_length_pos value.length.toUInt32
      rw [List.append_assoc]
      exact List.append_ne_nil_of_left_ne_nil (List.length_pos_iff.1 hpos) _
    rw [decodeFields_of_ne_nil hne, Varint.splitField?_append hlength]
    simp only [ih hback]
    rfl

/-- Fields that are not too long have an encoding. -/
theorem exists_encodeFields {values : List Bytes} (h : ∀ value ∈ values, value.length < 1 <<< 32) :
    ∃ bytes, encodeFields values = .ok bytes := by
  induction values with
  | nil => exact ⟨[], rfl⟩
  | cons value rest ih =>
    rw [List.forall_mem_cons] at h
    obtain ⟨back, hback⟩ := ih h.2
    exact ⟨_, encodeFields_cons_eq_ok.2 ⟨_, back, encodeField_eq_ok.2 ⟨h.1, rfl⟩, hback, rfl⟩⟩

/-- Only equal lists have the same encoding. -/
theorem encodeFields_inj {xs ys : List Bytes} {bytes : Bytes} (hx : encodeFields xs = .ok bytes)
    (hy : encodeFields ys = .ok bytes) : xs = ys := by
  have h := decodeFields_of_encodeFields hx
  rw [decodeFields_of_encodeFields hy] at h
  exact (Except.ok.inj h).symm

/-! ## Keys of rows -/

/-- A field more is written if it can be read and is not too long. -/
theorem append_eq_done {row : Row} {written out : Bytes} {field : Nat} :
    append row written field = .done out ↔
      ∃ value front, row.field field = .ok value ∧ encodeField value = .ok front ∧
        out = written ++ front := by
  simp only [append, Step.ofExcept_eq_done, bind_eq_ok, pure_eq_ok, exists_and_left]
  simp only [eq_comm]

theorem each_append_eq_done {fields : List Nat} {row : Row} {written out : Bytes} :
    Step.each (append row) fields written = .done out ↔
      ∃ values bytes, fields.mapM row.field = .ok values ∧ encodeFields values = .ok bytes ∧
        out = written ++ bytes := by
  induction fields generalizing written with
  | nil =>
    rw [Step.each_nil]
    constructor
    · rintro ⟨⟩
      exact ⟨[], [], rfl, rfl, (List.append_nil _).symm⟩
    · rintro ⟨values, bytes, ⟨⟩, ⟨⟩, rfl⟩
      rw [List.append_nil]
  | cons field fields ih =>
    rw [Step.each_cons, Step.andThen_eq_done]
    simp only [append_eq_done, ih, mapM_cons_eq_ok]
    constructor
    · rintro ⟨_, ⟨value, front, hvalue, hfront, rfl⟩, values, back, hvalues, hback, rfl⟩
      exact ⟨value :: values, front ++ back, ⟨value, values, hvalue, hvalues, rfl⟩,
        encodeFields_cons_eq_ok.2 ⟨front, back, hfront, hback, rfl⟩, List.append_assoc ..⟩
    · rintro ⟨_, bytes, ⟨value, values, hvalue, hvalues, rfl⟩, hbytes, rfl⟩
      obtain ⟨front, back, hfront, hback, rfl⟩ := encodeFields_cons_eq_ok.1 hbytes
      exact ⟨_, ⟨value, front, hvalue, hfront, rfl⟩, values, back, hvalues, hback,
        (List.append_assoc ..).symm⟩

/-- What the buffer held before is of no influence. -/
theorem write_eq_done {buffer out : Bytes} {keys : List Key} {row : Row} :
    write buffer keys row = .done out ↔
      ∃ values, (keys.mapM fun key ↦ row.field key.field) = .ok values ∧
        encodeFields values = .ok out := by
  rw [write, each_append_eq_done, List.mapM_map]
  simp only [List.nil_append, exists_eq_right_right']
  rfl

theorem serialize_eq_ok {keys : List Key} {row : Row} {bytes : Bytes} :
    serialize keys row = .ok bytes ↔
      ∃ values, (keys.mapM fun key ↦ row.field key.field) = .ok values ∧
        encodeFields values = .ok bytes :=
  Step.result_eq_ok.trans write_eq_done

theorem serialize_congr {keys keys' : List Key} (h : keys'.map Key.field = keys.map Key.field)
    (row : Row) : serialize keys' row = serialize keys row := by
  rw [serialize, serialize, write, write, h]

end Key

namespace Blob

theorem decode_of_encode {values : List Bytes} {blob : Bytes} (h : encode values = .ok blob) :
    decode values.length blob = .ok values := by
  fun_induction encode values generalizing blob with
  | case1 => rfl
  | case2 last => cases h; rfl
  | case3 => cases h
  | case4 value next rest front hfront ih =>
    obtain ⟨back, hback, rfl⟩ := map_eq_ok.1 h
    obtain ⟨hlength, rfl⟩ := Key.encodeField_eq_ok.1 hfront
    have ih := ih hback
    simp only [List.length_cons] at ih ⊢
    rw [decode, Varint.splitField?_append hlength]
    simp only [ih]
    rfl

end Blob

end Rollup
