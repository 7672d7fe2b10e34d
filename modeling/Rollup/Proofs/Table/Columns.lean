import Rollup.Proofs.Outcome
import Rollup.Output.Columns

/-!
# What columns show after they were filled

Entries for different columns are all seen afterwards, in whatever order they
were written (`putAll_eq`).  If the same columns are filled for every row, then,
nothing is left over from the row before (`putAll_of_blankOutside`).
-/

namespace Rollup

namespace Step

variable {ε σ α : Type}

/-- Lists of items are gone through like all their items in one list. -/
theorem each_flatten (next : σ → α → Step ε σ) (xss : List (List α)) (s : σ) :
    each (fun s xs ↦ each next xs s) xss s = each next xss.flatten s := by
  induction xss generalizing s with
  | nil => rfl
  | cons xs xss ih =>
    rw [each_cons, List.flatten_cons, each_append]
    congr 1
    exact funext ih

/-- Going through a list like through the list of what is made of its items. -/
theorem each_of_map {β : Type} {next : σ → α → Step ε σ} {next' : σ → β → Step ε σ} {f : α → β}
    (h : ∀ s a, next s a = next' s (f a)) (xs : List α) (s : σ) :
    each next xs s = each next' (xs.map f) s := by
  induction xs generalizing s with
  | nil => rfl
  | cons x xs ih =>
    rw [List.map_cons, each_cons, each_cons, h]
    congr 1
    exact funext ih

end Step

namespace Columns

/-- The row of so many columns that shows these entries, and is empty elsewhere. -/
def row (width : Nat) (entries : List (Nat × Bytes)) : List Bytes :=
  (List.range width).map fun column ↦ (entries.lookup column).getD []

theorem getElem_row {width : Nat} {entries : List (Nat × Bytes)} {i : Nat}
    (h : i < (row width entries).toArray.size) :
    (row width entries).toArray[i] = (entries.lookup i).getD [] := by
  rw [List.getElem_toArray]
  simp only [row, List.getElem_map, List.getElem_range]

/-- The columns with some of them overwritten. -/
def overlaid (columns : Columns) (entries : List (Nat × Bytes)) : Columns :=
  columns.mapIdx fun column old ↦ (entries.lookup column).getD old

@[simp] theorem size_overlaid (columns : Columns) (entries : List (Nat × Bytes)) :
    (columns.overlaid entries).size = columns.size := Array.size_mapIdx

theorem getElem_overlaid {columns : Columns} {entries : List (Nat × Bytes)} {i : Nat}
    (h : i < (columns.overlaid entries).size) (hi : i < columns.size) :
    (columns.overlaid entries)[i] = (entries.lookup i).getD columns[i] :=
  Array.getElem_mapIdx ..

theorem lookup_eq_none {entries : List (Nat × Bytes)} {column : Nat}
    (h : column ∉ entries.map Prod.fst) : entries.lookup column = none := by
  refine List.lookup_eq_none_iff.2 fun entry hentry ↦ bne_iff_ne.2 fun heq ↦ ?_
  exact h (List.mem_map.2 ⟨entry, hentry, heq.symm⟩)

theorem lookup_of_mem {entries : List (Nat × Bytes)} (hnodup : (entries.map Prod.fst).Nodup)
    {entry : Nat × Bytes} (h : entry ∈ entries) : entries.lookup entry.1 = some entry.2 := by
  induction entries with
  | nil => cases h
  | cons other entries ih =>
    rw [List.map_cons, List.nodup_cons] at hnodup
    obtain ⟨column, value⟩ := other
    rw [List.lookup_cons]
    rcases List.mem_cons.1 h with rfl | h
    · rw [beq_self_eq_true]
    · have hne : entry.1 ≠ column := fun heq ↦
        hnodup.1 (List.mem_map.2 ⟨entry, h, heq⟩)
      rw [beq_false_of_ne hne]
      exact ih hnodup.2 h

theorem overlaid_cons {columns : Columns} {column : Nat} {value : Bytes}
    {entries : List (Nat × Bytes)} (hnew : column ∉ entries.map Prod.fst) :
    columns.overlaid ((column, value) :: entries) =
      overlaid (columns.setIfInBounds column value) entries := by
  refine Array.ext (by simp) fun i hi _ ↦ ?_
  rw [size_overlaid] at hi
  rw [getElem_overlaid _ hi, getElem_overlaid _ (by simpa using hi), List.lookup_cons]
  by_cases h : i = column
  · subst h
    rw [beq_self_eq_true, lookup_eq_none hnew]
    simp
  · rw [beq_false_of_ne h, Array.getElem_setIfInBounds_ne _ (Ne.symm h)]

/-- Entries for different columns are all written, and the rest stays. -/
theorem putAll_eq {columns : Columns} {entries : List (Nat × Bytes)}
    (hnodup : (entries.map Prod.fst).Nodup) (hlt : ∀ c ∈ entries.map Prod.fst, c < columns.size) :
    columns.putAll entries = .done (columns.overlaid entries) := by
  induction entries generalizing columns with
  | nil =>
    refine congrArg Step.done (Array.ext (by simp) fun i hi _ ↦ ?_)
    rw [getElem_overlaid _ hi]
    rfl
  | cons entry entries ih =>
    obtain ⟨column, value⟩ := entry
    rw [List.map_cons, List.nodup_cons] at hnodup
    rw [List.map_cons, List.forall_mem_cons] at hlt
    have hput : columns.put column value = .ok (columns.setIfInBounds column value) :=
      if_pos hlt.1
    rw [putAll, Step.each_cons]
    dsimp only
    rw [hput, Step.ofExcept, Step.done_andThen, overlaid_cons hnodup.1]
    refine ih hnodup.2 fun c hc ↦ ?_
    rw [Array.size_setIfInBounds]
    exact hlt.2 c hc

/-- Nothing stands in the columns other than these. -/
def BlankOutside (columns : Columns) (filled : List Nat) : Prop :=
  ∀ (c : Nat) (h : c < columns.size), c ∉ filled → columns[c] = []

theorem blankOutside_blank (width : Nat) (filled : List Nat) :
    BlankOutside (blank width) filled := by
  intro c _ _
  simp [blank]

theorem overlaid_of_blankOutside {columns : Columns} {entries : List (Nat × Bytes)}
    (h : columns.BlankOutside (entries.map Prod.fst)) :
    columns.overlaid entries = (row columns.size entries).toArray := by
  refine Array.ext (by simp [row]) fun i hi _ ↦ ?_
  rw [size_overlaid] at hi
  rw [getElem_overlaid _ hi, getElem_row]
  by_cases hmem : i ∈ entries.map Prod.fst
  · cases hlookup : entries.lookup i with
    | some value => rfl
    | none =>
      obtain ⟨entry, hentry, rfl⟩ := List.mem_map.1 hmem
      exact absurd rfl (bne_iff_ne.1 (List.lookup_eq_none_iff.1 hlookup entry hentry))
  · rw [lookup_eq_none hmem, h i hi hmem]

theorem blankOutside_row (width : Nat) (entries : List (Nat × Bytes)) :
    BlankOutside (row width entries).toArray (entries.map Prod.fst) := by
  intro c hc hmem
  rw [getElem_row, lookup_eq_none hmem, Option.getD_none]

/-- It does not matter in which order different columns were filled. -/
theorem row_congr {entries others : List (Nat × Bytes)} (h : entries.Perm others)
    (hnodup : (entries.map Prod.fst).Nodup) (width : Nat) :
    row width entries = row width others := by
  refine List.map_congr_left fun column _ ↦ congrArg (Option.getD · []) ?_
  by_cases hmem : column ∈ entries.map Prod.fst
  · obtain ⟨entry, hentry, rfl⟩ := List.mem_map.1 hmem
    rw [lookup_of_mem hnodup hentry,
      lookup_of_mem ((h.map Prod.fst).nodup_iff.1 hnodup) (h.mem_iff.1 hentry)]
  · rw [lookup_eq_none hmem, lookup_eq_none fun h' ↦ hmem ((h.map Prod.fst).mem_iff.2 h')]

/-- Entries for all columns from left to right are the row. -/
theorem row_of_all {entries : List (Nat × Bytes)} {width : Nat}
    (h : entries.map Prod.fst = List.range width) : row width entries = entries.map Prod.snd := by
  have hnodup : (entries.map Prod.fst).Nodup := h ▸ List.nodup_range
  rw [row, ← h, List.map_map]
  refine List.map_congr_left fun entry hentry ↦ ?_
  rw [Function.comp_apply, lookup_of_mem hnodup hentry]
  rfl

/-- Filling the same columns again shows the new entries only. -/
theorem putAll_of_blankOutside {columns : Columns} {entries : List (Nat × Bytes)}
    (h : columns.BlankOutside (entries.map Prod.fst)) (hnodup : (entries.map Prod.fst).Nodup)
    (hlt : ∀ c ∈ entries.map Prod.fst, c < columns.size) :
    columns.putAll entries = .done (row columns.size entries).toArray := by
  rw [putAll_eq hnodup hlt, overlaid_of_blankOutside h]

/-- Filling all columns from left to right shows the new values only. -/
theorem putAll_zipIdx {columns : Columns} {values : List Bytes}
    (hsize : columns.size = values.length) :
    columns.putAll (values.zipIdx.map Prod.swap) = .done values.toArray := by
  have hall : (values.zipIdx.map Prod.swap).map Prod.fst = List.range columns.size := by
    rw [List.map_map, hsize, List.range_eq_range', ← List.zipIdx_map_snd 0 values]
    rfl
  have hvalues : (values.zipIdx.map Prod.swap).map Prod.snd = values := by
    rw [List.map_map]
    exact List.zipIdx_map_fst 0 values
  rw [putAll_of_blankOutside, row_of_all hall, hvalues]
  · intro c hc hout
    exact absurd (hall ▸ List.mem_range.2 hc) hout
  · exact hall ▸ List.nodup_range
  · exact fun c hc ↦ List.mem_range.1 (hall ▸ hc)

end Columns

end Rollup
