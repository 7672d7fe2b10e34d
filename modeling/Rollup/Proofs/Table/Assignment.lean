import Rollup.Proofs.Table.Rendering
import Rollup.Table.Build

/-!
# Components and their columns

Components get their columns from left to right, as many as each of them needs,
so that together they take all columns of the row once (`columns_perm`).  The
row of a tuple, then, is what the components show, one after the other
(`line_eq_parts`); and what a component shows depends on its column no more than
on the other components (`Part.values_eq`).
-/

namespace Rollup

open Outcome Aggregator Grouping

/-- The field of a key. -/
def Component.key? : Component → Option Nat
  | .key field => some field
  | _ => none

/-- The columns of some components together. -/
def Component.totalWidth (components : List Component) : Nat :=
  (components.map width).foldr (· + ·) 0

/-! ## The column of an aggregate -/

namespace Aggregate

/-- The same aggregate in the first column. -/
def unplaced : Aggregate → Aggregate
  | .nothing => .nothing
  | .count _ => .count 0
  | .sum field _ => .sum field 0
  | .extremum goal field _ => .extremum goal field 0
  | .bestRow goal field carried => .bestRow goal field (carried.map fun c ↦ ⟨c.field, 0⟩)
  | .distinct field _ => .distinct field 0

/-- What is printed does not depend on where it is printed. -/
theorem Prints.unplaced [NumberReader] {aggregate : Aggregate} {rows : List Row}
    {entries : List (Nat × Bytes)} (h : aggregate.Prints rows entries) :
    aggregate.unplaced.Prints rows (entries.map fun entry ↦ (0, entry.2)) := by
  cases h with
  | nothing => exact .nothing
  | count => exact .count
  | sum h => exact .sum h
  | extremum h => exact .extremum h
  | @bestRow goal field carried rows row values hchampion hvalues =>
    have hvalues' : ((carried.map fun c ↦ CarriedField.mk c.field 0).mapM
        fun c ↦ row.field c.field) = .ok values := by
      rw [List.mapM_map]
      exact hvalues
    have hprints := Prints.bestRow hchampion hvalues'
    rw [List.map_map, List.zip_map_left] at hprints
    rw [List.zip_map_left, List.map_map]
    exact hprints
  | distinct h => exact .distinct h

end Aggregate

namespace Assignment

variable {components rest : List Component} {c : Component} {column : Nat} {a : Assignment}

/-! ## Columns -/

/-- An aggregate prints as many columns as its component is wide, from its first on. -/
theorem columns_of_aggregate {aggregate : Aggregate}
    (h : c.aggregate? column = .ok (some aggregate)) :
    aggregate.columns = List.range' column c.width := by
  match c with
  | .key field => cases h
  | .sum field | .count | .distinct field | .extremum goal [field] =>
    cases h
    rfl
  | .extremum goal [] => cases h
  | .extremum goal (field :: next :: rest) =>
    cases h
    have hwidth : (Component.extremum goal (field :: next :: rest)).width =
        (next :: rest).length := by
      simp [Component.width]
    rw [hwidth, Aggregate.columns, List.map_map, List.range'_eq_map_range, List.range_eq_range',
      ← List.zipIdx_map_snd 0, List.map_map]
    rfl

/-- A component is a key or has an aggregate, in front of those of the rest. -/
theorem from_cons_eq_ok (h : Assignment.from column (c :: rest) = .ok a) :
    ∃ behind, Assignment.from (column + c.width) rest = .ok behind ∧
      ((∃ field, c = .key field ∧ a = { behind with keys := ⟨field, column⟩ :: behind.keys }) ∨
        ∃ aggregate, c.aggregate? column = .ok (some aggregate) ∧
          a = { behind with aggregates := aggregate :: behind.aggregates }) := by
  rw [Assignment.from] at h
  split at h
  · cases h
  · rename_i aggregate? haggregate
    obtain ⟨behind, hbehind, rfl⟩ := map_eq_ok.1 h
    refine ⟨behind, hbehind, ?_⟩
    match c, aggregate? with
    | .key field, _ => exact .inl ⟨field, rfl, rfl⟩
    | .sum _, some aggregate | .extremum _ _, some aggregate | .count, some aggregate
    | .distinct _, some aggregate => exact .inr ⟨aggregate, haggregate, rfl⟩
    | .extremum _ [], none | .extremum _ [_], none | .extremum _ (_ :: _ :: _), none
    | .sum _, none | .count, none | .distinct _, none => cases haggregate

theorem width_eq (h : Assignment.from column components = .ok a) :
    a.width = column + Component.totalWidth components := by
  induction components generalizing column a with
  | nil =>
    cases h
    rfl
  | cons c rest ih =>
    obtain ⟨behind, hbehind, ⟨_, _, rfl⟩ | ⟨_, _, rfl⟩⟩ := from_cons_eq_ok h
    all_goals
      have hwidth := ih hbehind
      rw [Component.totalWidth, List.map_cons, List.foldr_cons, ← Nat.add_assoc]
      exact hwidth

theorem range'_totalWidth_cons (column : Nat) (c : Component) (rest : List Component) :
    List.range' column (Component.totalWidth (c :: rest)) =
      List.range' column c.width ++
        List.range' (column + c.width) (Component.totalWidth rest) := by
  rw [List.range'_append_1]
  rfl

/-- All columns are taken once. -/
theorem columns_perm (h : Assignment.from column components = .ok a) :
    (columnsOf a.keys a.aggregates).Perm
      (List.range' column (Component.totalWidth components)) := by
  induction components generalizing column a with
  | nil =>
    cases h
    exact .nil
  | cons c rest ih =>
    obtain ⟨behind, hbehind, hcase⟩ := from_cons_eq_ok h
    rw [range'_totalWidth_cons]
    rcases hcase with ⟨field, rfl, rfl⟩ | ⟨aggregate, haggregate, rfl⟩
    · exact .cons column (ih hbehind)
    · rw [columnsOf, List.flatMap_cons, columns_of_aggregate haggregate]
      exact (List.perm_append_comm_assoc ..).trans ((ih hbehind).append_left _)

/-- The keys stand in the order of the components. -/
theorem keys_eq (h : Assignment.from column components = .ok a) :
    a.keys.map Key.field = components.filterMap Component.key? := by
  induction components generalizing column a with
  | nil =>
    cases h
    rfl
  | cons c rest ih =>
    obtain ⟨behind, hbehind, ⟨field, rfl, rfl⟩ | ⟨aggregate, haggregate, rfl⟩⟩ := from_cons_eq_ok h
    · rw [List.filterMap_cons, ← ih hbehind]
      rfl
    · have hnone : c.key? = none := by
        cases c with
        | key field => cases haggregate
        | _ => rfl
      rw [List.filterMap_cons_none hnone, ← ih hbehind]

end Assignment

/-! ## What components show -/

/-- For a group with these rows, of which `row` is one, the component can show
these values in these columns. -/
inductive Part [NumberReader] (row : Row) (rows : List Row) : Component → List (Nat × Bytes) → Prop
  | key {field column : Nat} {value : Bytes} (h : row.field field = .ok value) :
    Part row rows (.key field) [(column, value)]
  | aggregate {c : Component} {column : Nat} {aggregate : Aggregate} {entries : List (Nat × Bytes)}
    (h : c.aggregate? column = .ok (some aggregate)) (hprints : aggregate.Prints rows entries) :
    Part row rows c entries

namespace Part

variable {row : Row} {rows : List Row} {c : Component} {entries others : List (Nat × Bytes)}

/-- A component is as wide as what it shows. -/
theorem length_eq [NumberReader] (h : Part row rows c entries) : entries.length = c.width := by
  cases h with
  | key => rfl
  | aggregate h hprints =>
    rw [← List.length_map Prod.fst, hprints.columns_eq, Assignment.columns_of_aggregate h,
      List.length_range']

theorem unplaced_eq {column column' : Nat} {aggregate aggregate' : Aggregate}
    (h : c.aggregate? column = .ok (some aggregate))
    (h' : c.aggregate? column' = .ok (some aggregate')) :
    aggregate.unplaced = aggregate'.unplaced := by
  match c with
  | .key field | .extremum goal [] => cases h
  | .sum field | .count | .distinct field | .extremum goal [field] =>
    cases h
    cases h'
    rfl
  | .extremum goal (field :: next :: rest) =>
    cases h
    cases h'
    simp only [Aggregate.unplaced, List.map_map]
    rfl

/-- The component shows the same values in all columns. -/
theorem values_eq [NumberReader] (h : Part row rows c entries) (h' : Part row rows c others) :
    entries.map Prod.snd = others.map Prod.snd := by
  cases h with
  | key h =>
    cases h' with
    | key h' =>
      cases h.symm.trans h'
      rfl
    | aggregate h' => cases h'
  | aggregate h hprints =>
    cases h' with
    | key h' => cases h
    | aggregate h' hprints' =>
      have hunplaced := hprints'.unplaced
      rw [← unplaced_eq h h'] at hunplaced
      have hsame := congrArg (List.map Prod.snd) (hprints.unplaced.unique hunplaced)
      rw [List.map_map, List.map_map] at hsame
      exact hsame

end Part

namespace Assignment

variable {components : List Component} {column : Nat} {a : Assignment} {row : Row}
  {rows : List Row} {t line : List Bytes}

/-- Keys and aggregates print what the components show, in other words. -/
theorem parts_of_from [NumberReader] (h : Assignment.from column components = .ok a)
    {shares : List (List (Nat × Bytes))} (ht : tuple a.keys row = .ok t)
    (hshares : Shares rows a.aggregates shares) :
    ∃ parts, List.Forall₂ (Part row rows) components parts ∧
      parts.flatten.Perm ((a.keys.map Key.column).zip t ++ shares.flatten) ∧
      parts.flatten.map Prod.fst = List.range' column (Component.totalWidth components) := by
  induction components generalizing column a t shares with
  | nil =>
    cases h
    cases ht
    cases hshares
    exact ⟨[], .nil, .nil, rfl⟩
  | cons c rest ih =>
    rw [range'_totalWidth_cons]
    obtain ⟨behind, hbehind, ⟨field, rfl, rfl⟩ | ⟨aggregate, haggregate, rfl⟩⟩ := from_cons_eq_ok h
    · obtain ⟨value, values, hvalue, hvalues, rfl⟩ := mapM_cons_eq_ok.1 ht
      obtain ⟨parts, hparts, hperm, hcolumns⟩ := ih hbehind hvalues hshares
      refine ⟨[(column, value)] :: parts, .cons (.key hvalue) hparts, hperm.cons _, ?_⟩
      rw [List.flatten_cons, List.map_append, hcolumns]
      rfl
    · obtain ⟨entries, shares, hprints, hrest, rfl⟩ := List.forall₂_cons_left_iff.1 hshares
      obtain ⟨parts, hparts, hperm, hcolumns⟩ := ih hbehind ht hrest
      refine ⟨entries :: parts, .cons (.aggregate haggregate hprints) hparts, ?_, ?_⟩
      · rw [List.flatten_cons, List.flatten_cons]
        exact (hperm.append_left entries).trans (List.perm_append_comm_assoc ..)
      · rw [List.flatten_cons, List.map_append, hcolumns, hprints.columns_eq,
          columns_of_aggregate haggregate]

/-- The row of a tuple is what the components show, one after the other. -/
theorem line_eq_parts [NumberReader] (h : Assignment.from 0 components = .ok a)
    (hline : Line a.keys a.aggregates a.width rows t line) (hrow : tuple a.keys row = .ok t) :
    ∃ parts, List.Forall₂ (Part row (members a.keys t rows)) components parts ∧
      line = parts.flatten.map Prod.snd := by
  obtain ⟨shares, hshares, rfl⟩ := hline
  obtain ⟨parts, hparts, hperm, hcolumns⟩ := parts_of_from h hrow hshares
  have hnodup : (parts.flatten.map Prod.fst).Nodup := hcolumns ▸ List.nodup_range'
  refine ⟨parts, hparts, ?_⟩
  rw [← Columns.row_congr hperm hnodup, Columns.row_of_all]
  rw [hcolumns, width_eq h, Nat.zero_add, List.range_eq_range']

theorem fits_of_from (h : Assignment.from 0 components = .ok a) :
    Fits a.keys a.aggregates a.width where
  nodup := (columns_perm h).nodup_iff.2 List.nodup_range'
  lt_width column hcolumn := by
    have hmem := (columns_perm h).mem_iff.1 hcolumn
    rw [List.mem_range'_1] at hmem
    rw [width_eq h]
    exact hmem.2

end Assignment

/-! ## One component and the keys -/

namespace Component

/-- The keys among some components, and one component behind them. -/
def withKeys (c : Component) (components : List Component) : List Component :=
  (components.filter fun c ↦ c.key?.isSome) ++ [c]

theorem exists_aggregate {c : Component} {column : Nat} {aggregate : Aggregate}
    (h : c.aggregate? column = .ok (some aggregate)) (column' : Nat) :
    ∃ aggregate', c.aggregate? column' = .ok (some aggregate') := by
  match c with
  | .key field | .extremum goal [] => cases h
  | .sum field | .count | .distinct field | .extremum goal [field]
  | .extremum goal (field :: next :: rest) => exact ⟨_, rfl⟩

end Component

namespace Assignment

variable {components front : List Component} {c : Component} {column : Nat} {a : Assignment}

/-- A component that is not a key has an aggregate. -/
theorem exists_mem_aggregates (h : Assignment.from column components = .ok a) (hc : c ∈ components)
    (hnone : c.key? = none) :
    ∃ column' aggregate, c.aggregate? column' = .ok (some aggregate) ∧
      aggregate ∈ a.aggregates := by
  induction components generalizing column a with
  | nil => cases hc
  | cons first rest ih =>
    obtain ⟨behind, hbehind, hcase⟩ := from_cons_eq_ok h
    rcases List.mem_cons.1 hc with rfl | hc
    · rcases hcase with ⟨field, rfl, rfl⟩ | ⟨aggregate, haggregate, rfl⟩
      · cases hnone
      · exact ⟨column, aggregate, haggregate, List.mem_cons_self⟩
    · obtain ⟨column', aggregate, haggregate, hmem⟩ := ih hbehind hc
      rcases hcase with ⟨field, rfl, rfl⟩ | ⟨aggregate', haggregate', rfl⟩
      · exact ⟨column', aggregate, haggregate, hmem⟩
      · exact ⟨column', aggregate, haggregate, List.mem_cons_of_mem _ hmem⟩

/-- Keys are numbered one by one, and the component behind them comes last. -/
theorem from_keys_snoc (hkeys : ∀ k ∈ front, k.key?.isSome) {aggregate : Aggregate}
    (h : c.aggregate? (column + front.length) = .ok (some aggregate)) :
    ∃ keys, Assignment.from column (front ++ [c]) =
        .ok ⟨keys, [aggregate], column + front.length + c.width⟩ ∧
      keys.map Key.column = List.range' column front.length := by
  induction front generalizing column with
  | nil =>
    refine ⟨[], ?_, rfl⟩
    rw [List.nil_append, Assignment.from, show c.aggregate? column = _ from h]
    cases c with
    | key field => cases h
    | _ => rfl
  | cons k front ih =>
    rw [List.forall_mem_cons] at hkeys
    rw [List.length_cons, Nat.add_comm front.length, ← Nat.add_assoc] at h ⊢
    obtain ⟨keys, hfrom, hcolumns⟩ := ih hkeys.2 h
    cases k with
    | key field =>
      refine ⟨⟨field, column⟩ :: keys, ?_, ?_⟩
      · rw [List.cons_append, Assignment.from]
        simp only [Component.aggregate?, Component.width, hfrom]
        rfl
      · rw [List.map_cons, hcolumns, Nat.add_comm 1, List.range'_succ]
    | _ => cases hkeys.1

end Assignment

end Rollup
