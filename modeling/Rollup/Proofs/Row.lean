import Rollup.Proofs.Outcome
import Rollup.Row

/-!
# The fields of rows

A row whose fields can be read is known by the list of them (`field_of_fields`).
The row made from some fields has these (`fields_ofFields`).
-/

namespace Rollup

namespace Outcome

variable {ε α β : Type} {f : α → Except ε β}

theorem exists_mapM {as : List α} (h : ∀ a ∈ as, ∃ b, f a = .ok b) : ∃ bs, as.mapM f = .ok bs := by
  induction as with
  | nil => exact ⟨[], rfl⟩
  | cons a as ih =>
    rw [List.forall_mem_cons] at h
    obtain ⟨b, hb⟩ := h.1
    obtain ⟨bs, hbs⟩ := ih h.2
    exact ⟨b :: bs, mapM_cons_eq_ok.2 ⟨b, bs, hb, hbs, rfl⟩⟩

theorem getElem?_of_mapM {as : List α} {bs : List β} (h : as.mapM f = .ok bs) (i : Nat) :
    (as[i]? = none ∧ bs[i]? = none) ∨ ∃ a b, as[i]? = some a ∧ bs[i]? = some b ∧ f a = .ok b := by
  induction as generalizing bs i with
  | nil =>
    cases h
    exact .inl ⟨rfl, rfl⟩
  | cons a as ih =>
    obtain ⟨b, bs', hb, hbs, rfl⟩ := mapM_cons_eq_ok.1 h
    cases i with
    | zero => exact .inr ⟨a, b, rfl, rfl, hb⟩
    | succ i => exact ih hbs i

end Outcome

open Outcome

namespace Row

/-- A field is one of those that the row has, or empty. -/
theorem field_of_fields {row : Row} {record : List Bytes} (h : row.fields = .ok record) (i : Nat) :
    row.field i = .ok (record[i]?.getD []) := by
  rw [field]
  rcases getElem?_of_mapM h i with ⟨hspan, hvalue⟩ | ⟨span, value, hspan, hvalue, hslice⟩
  · rw [hspan, hvalue]
    rfl
  · rw [hspan, hvalue]
    exact hslice

/-! ## Rows between stages -/

theorem slice_append (front value behind : Bytes) :
    slice (front ++ (value ++ behind)) (front.length, front.length + value.length) = .ok value := by
  rw [slice, if_pos ⟨Nat.le_add_right _ _, by simp⟩, Nat.add_sub_cancel_left, List.drop_left,
    List.take_left]

theorem fields_packed (front : Bytes) (record : List Bytes) :
    (packedSpans front.length record).mapM (slice (front ++ record.flatten)) = .ok record := by
  induction record generalizing front with
  | nil => rfl
  | cons value rest ih =>
    rw [packedSpans, List.flatten_cons, mapM_cons_eq_ok]
    refine ⟨value, rest, slice_append front value rest.flatten, ?_, rfl⟩
    rw [← List.length_append, ← List.append_assoc]
    exact ih (front ++ value)

theorem fields_ofFields (record : List Bytes) : (ofFields record).fields = .ok record :=
  fields_packed [] record

end Row

end Rollup
