import Rollup.Proofs.Number.Exact
import Rollup.Proofs.Fields
import Rollup.Proofs.Table.Rendering

/-!
# How computations on rows can fail

A field need not be a number, a key can be too long, and a sink can fail: these are
*ordinary* errors.  That an access is out of range, or that there is no data, are not.  A
computation that ends with an ordinary error at most, or with a full counter under some
condition, is `Ordinary`.

Here are the computations on a single row or a single accumulator.  They are ordinary if the
fields of the row can be read (`Row.Readable`), and the accumulator is one that the
aggregator recalls rows by; its counter is full only after too many rows
(`Aggregator.ordinary_absorb`).
-/

namespace Rollup

open Outcome

/-- The error is neither an access out of range nor a lack of data. -/
def Error.IsOrdinary : Error → Prop
  | .outOfRange _ | .noData => False
  | _ => True

/-- The computation ends with an ordinary error at most, or, if `full`, with a full
counter. -/
def Ordinary {α : Type} (full : Prop) (x : Except Error α) : Prop :=
  ∀ e, x = .error e → e.IsOrdinary ∨ full ∧ e = .outOfRange .counter

/-- The computation ends with no access out of range. -/
def InRange {α : Type} (x : Except Error α) : Prop := ∀ access, x ≠ .error (.outOfRange access)

namespace Ordinary

variable {α β : Type} {full : Prop} {x : Except Error α}

theorem ok (a : α) : Ordinary full (.ok a : Except Error α) := fun _ h ↦ by cases h

theorem of_eq_ok {a : α} (h : x = .ok a) : Ordinary full x := h ▸ ok a

theorem error {e : Error} (h : e.IsOrdinary) : Ordinary full (.error e : Except Error α) := by
  rintro _ ⟨⟩
  exact .inl h

/-- The error of another computation. -/
theorem of_error {e : Error} (h : Ordinary full x) (hx : x = .error e) :
    Ordinary full (.error e : Except Error β) := by
  rintro _ ⟨⟩
  exact h e hx

theorem bind {g : α → Except Error β} (hx : Ordinary full x)
    (hg : ∀ a, x = .ok a → Ordinary full (g a)) : Ordinary full (x >>= g) := by
  intro e h
  rcases bind_eq_error.1 h with h | ⟨a, ha, h⟩
  · exact hx e h
  · exact hg a ha e h

theorem map {f : α → β} (hx : Ordinary full x) : Ordinary full (x.map f) := by
  cases x with
  | ok a => exact ok (f a)
  | error e =>
    rintro _ ⟨⟩
    exact hx e rfl

/-- Only the verdict counts. -/
theorem of_verdict {y : Except Error β} (h : verdict x = verdict y) (hy : Ordinary full y) :
    Ordinary full x :=
  fun e hx ↦ hy e (verdict_eq_error.1 (h.symm.trans (verdict_eq_error.2 hx)))

theorem mono {full' : Prop} (hx : Ordinary full x) (h : full → full') : Ordinary full' x :=
  fun e he ↦ (hx e he).imp_right fun ⟨hfull, heq⟩ ↦ ⟨h hfull, heq⟩

theorem inRange (hx : Ordinary full x) (h : ¬ full) : InRange x := by
  intro access heq
  rcases hx _ heq with hordinary | ⟨hfull, -⟩
  · exact hordinary
  · exact h hfull

theorem ne_noData (hx : Ordinary full x) : x ≠ .error .noData := by
  intro heq
  rcases hx _ heq with hordinary | ⟨-, ⟨⟩⟩
  exact hordinary

end Ordinary

/-! ## Steps through a list -/

namespace Step

variable {σ α : Type} {p : σ → Prop} {next : σ → α → Step Error σ} {xs : List α} {s : σ}

/-- What every step with an item of the list keeps, going through the list keeps. -/
theorem each_keeps (keeps : ∀ a ∈ xs, ∀ s, p s → p (next s a).state) (h : p s) :
    p (each next xs s).state := by
  induction xs generalizing s with
  | nil => exact h
  | cons x xs ih =>
    rw [List.forall_mem_cons] at keeps
    rw [each_cons]
    cases hx : (next s x).outcome with
    | ok u => rw [andThen_of_ok hx]; exact ih keeps.2 (keeps.1 s h)
    | error e => rw [andThen_of_error hx]; exact keeps.1 s h

/-- Going through a list is ordinary if every step is, but for counters in states that are
not bounded. -/
theorem each_ordinary (bounded : σ → Prop)
    (keeps : ∀ a ∈ xs, ∀ s, p s → p (next s a).state)
    (steps : ∀ a ∈ xs, ∀ s, p s → Ordinary (¬ bounded (next s a).state) (next s a).outcome)
    (h : p s) : Ordinary (¬ bounded (each next xs s).state) (each next xs s).outcome := by
  cases hrun : (each next xs s).outcome with
  | ok u => exact .ok u
  | error e =>
    obtain ⟨front, x, behind, s', rfl, hfront, hlast, hx⟩ := exists_refused hrun
    have hs' : p s' := by
      have hkeep : p (each next front s).state :=
        each_keeps (fun a ha ↦ keeps a (List.mem_append_left _ ha)) h
      rwa [hfront] at hkeep
    rw [hlast, ← hx]
    exact steps x (List.mem_append_right _ List.mem_cons_self) s' hs'

end Step

variable {full : Prop}

/-! ## Rows -/

namespace Row

/-- Every span of the row lies in its line. -/
def Readable (row : Row) : Prop := ∃ record, row.fields = .ok record

theorem readable_ofLine (line : Bytes) : (ofLine line).Readable := fields_ofLine line

theorem readable_ofFields (record : List Bytes) : (ofFields record).Readable :=
  ⟨record, fields_ofFields record⟩

variable {row : Row}

theorem Readable.exists_field (h : row.Readable) (i : Nat) : ∃ value, row.field i = .ok value := by
  obtain ⟨record, hrecord⟩ := h
  exact ⟨_, field_of_fields hrecord i⟩

theorem Readable.ordinary_field (h : row.Readable) (i : Nat) : Ordinary full (row.field i) := by
  obtain ⟨value, hvalue⟩ := h.exists_field i
  exact .of_eq_ok hvalue

theorem Readable.exists_allAccept (h : row.Readable) (tests : List FieldTest) :
    ∃ accepted, FieldTest.allAccept row tests = .ok accepted := by
  induction tests with
  | nil => exact ⟨true, rfl⟩
  | cons test tests ih =>
    obtain ⟨value, hvalue⟩ := h.exists_field test.field
    rw [FieldTest.allAccept, hvalue]
    dsimp only
    split
    · exact ih
    · exact ⟨false, rfl⟩

end Row

/-! ## Keys and blobs -/

theorem Key.ordinary_encodeField (value : Bytes) : Ordinary full (encodeField value) := by
  rw [encodeField]
  split
  · exact .ok _
  · exact .error trivial

theorem Key.ordinary_append {row : Row} (h : row.Readable) (written : Bytes) (field : Nat) :
    Ordinary full (append row written field).outcome := by
  have hencoded : Ordinary full (do
      let value ← row.field field
      let encoded ← encodeField value
      return written ++ encoded) :=
    (h.ordinary_field field).bind fun value _ ↦ (ordinary_encodeField value).bind fun _ _ ↦ .ok _
  rw [append]
  cases hcases : (do
      let value ← row.field field
      let encoded ← encodeField value
      return written ++ encoded : Except Error Bytes) with
  | ok written' => exact .ok ()
  | error e =>
    rintro _ ⟨⟩
    exact hencoded e hcases

theorem Key.ordinary_serialize {row : Row} (h : row.Readable) (keys : List Key) :
    Ordinary full (serialize keys row) := by
  have hwrite : Ordinary (¬ True) (write [] keys row).outcome :=
    Step.each_ordinary (p := fun _ ↦ True) (fun _ ↦ True) (fun _ _ _ _ ↦ trivial)
      (fun field _ written _ ↦ ordinary_append h written field) trivial
  exact (hwrite.mono fun hfalse ↦ absurd trivial hfalse).map

theorem Grouping.ordinary_keyOf {row : Row} (h : row.Readable) (keys : List Key) :
    Ordinary full (keyOf keys row) := by
  match keys with
  | [] => exact .ok _
  | [key] => exact h.ordinary_field key.field
  | _ :: _ :: _ => exact Key.ordinary_serialize h _

theorem Blob.ordinary_encode (values : List Bytes) : Ordinary full (encode values) := by
  fun_induction encode values with
  | case1 => exact .ok _
  | case2 last => exact .ok _
  | case3 value next rest e hfield => exact hfield ▸ Key.ordinary_encodeField value
  | case4 value next rest front hfield ih => exact ih.map

theorem Arena.ordinary_entry (blob : Bytes) : Ordinary full (entry blob) := by
  rw [entry]
  split
  · exact .ok _
  · exact .error trivial

theorem Arena.ordinary_store (a : Arena) (blob : Bytes) : Ordinary full (a.store blob).2 := by
  by_cases hfull : 1 <<< 32 ≤ a.size
  · rw [store_of_full hfull]
    exact .error trivial
  · exact .of_verdict (verdict_store (Nat.lt_of_not_le hfull) blob) (ordinary_entry blob)

/-! ## Aggregators -/

namespace Aggregator

open Aggregate

variable {a : Aggregator} {row : Row} {m : Memory} {s : Accumulator}

theorem ordinary_number [NumberReader] (h : row.Readable) (field : Nat) :
    Ordinary full (number row field) := by
  obtain ⟨value, hvalue⟩ := h.exists_field field
  rw [number, hvalue]
  change Ordinary full (Numeric.make value)
  cases hmake : Numeric.make value with
  | ok x => exact .ok x
  | error e =>
    rw [Numeric.makeBy_eq_error hmake]
    exact .error trivial

theorem ordinary_carriedBlob (h : row.Readable) (carried : List CarriedField) :
    Ordinary full (carriedBlob carried row) := by
  obtain ⟨values, hvalues⟩ := exists_mapM fun (c : CarriedField) (_ : c ∈ carried) ↦
    h.exists_field c.field
  rw [carriedBlob, hvalues, ok_bind]
  exact Blob.ordinary_encode values

theorem ordinary_start [NumberReader] (a : Aggregator) (h : row.Readable) :
    Ordinary full (a.start row).2 := by
  obtain ⟨aggregate, arena, seen, nextGroup⟩ := a
  cases aggregate with
  | nothing | count => exact .ok _
  | sum field | extremum goal field => exact (ordinary_number h field).map
  | bestRow goal field carried =>
    unfold start
    dsimp only
    cases hx : number row field with
    | error e => exact (ordinary_number h field).of_error hx
    | ok x =>
      cases hblob : carriedBlob carried row with
      | error e => exact (ordinary_carriedBlob h carried).of_error hblob
      | ok blob => exact (Arena.ordinary_store arena blob).map
  | distinct field column =>
    obtain ⟨value, hvalue⟩ := h.exists_field field
    unfold start
    dsimp only
    split
    · exact .error trivial
    · rw [hvalue]
      exact .ok _

theorem ordinary_carriedFields (h : row.Readable) (carried : List CarriedField) :
    Ordinary full (Memory.carriedFields carried row) := by
  cases hblob : carriedBlob carried row with
  | error e =>
    rw [carriedFields_of_error hblob]
    exact (ordinary_carriedBlob h carried).of_error hblob
  | ok blob =>
    obtain ⟨fields, -, -, hfields⟩ := carriedFields_of_ok hblob
    rw [hfields]
    exact (Arena.ordinary_entry blob).map

end Aggregator

namespace Memory

open Aggregator

/-- How many rows have been counted. -/
def rowCount : Memory → Nat
  | .count rows => rows
  | .distinct values => values.length
  | _ => 0

theorem rowCount_start [NumberReader] {aggregate : Aggregate} {row : Row} {m : Memory}
    (h : start aggregate row = .ok m) : m.rowCount ≤ 1 := by
  cases tells_of_start h with
  | nothing | sum | extremum | bestRow => exact Nat.zero_le 1
  | count => exact Nat.le_refl 1
  | distinct hvalues => exact (length_of_mapM hvalues).le

theorem rowCount_absorb [NumberReader] (aggregate : Aggregate) (row : Row) (m : Memory) :
    (m.absorb aggregate row).state.rowCount ≤ m.rowCount + 1 := by
  unfold absorb
  split
  case h_2 => split <;> simp [rowCount]
  case h_3 | h_4 => cases number row _ <;> exact Nat.zero_le _
  case h_5 =>
    split
    · exact Nat.zero_le _
    · split
      · exact Nat.zero_le _
      · cases carriedFields _ row <;> exact Nat.zero_le _
  case h_6 => split <;> (try split) <;> simp [rowCount]
  all_goals simp [rowCount]

end Memory

namespace Aggregator

variable {a : Aggregator} {row : Row} {m : Memory} {s : Accumulator}

/-- A further row finds what it needs, and a counter that is not full if fewer than 2³² - 1
rows were counted so far. -/
theorem ordinary_absorb [NumberReader] (hs : a.Shows m s) (h : row.Readable) :
    Ordinary (maxDistinct ≤ m.rowCount) (a.absorb row s).outcome := by
  rw [hs.outcome_eq]
  obtain ⟨kept, -, hs⟩ := hs
  obtain ⟨aggregate, arena, seen, nextGroup⟩ := a
  dsimp only
  cases hs with
  | nothing => exact .ok _
  | @count column rows =>
    unfold Memory.absorb
    dsimp only
    split
    · exact .ok _
    · rename_i hfull
      rintro _ ⟨⟩
      have hrows : maxDistinct ≤ maxRows := by decide
      exact .inr ⟨Nat.le_trans hrows (Nat.le_of_not_lt hfull), rfl⟩
  | sum | extremum =>
    rw [Memory.absorb, Step.ofExcept_outcome]
    exact (ordinary_number h _).map.map
  | bestRow _ _ _ =>
    unfold Memory.absorb
    dsimp only
    split
    · rename_i hx
      exact (ordinary_number h _).of_error hx
    · split
      · exact .ok _
      · rw [Step.ofExcept_outcome]
        exact (ordinary_carriedFields h _).map.map
  | @distinct field column group values _ _ =>
    obtain ⟨value, hvalue⟩ := h.exists_field field
    unfold Memory.absorb
    dsimp only
    rw [hvalue]
    dsimp only
    split
    · exact .ok _
    · rename_i hfull
      rintro _ ⟨⟩
      have hle : values.dedup.length ≤ values.length := (List.dedup_sublist values).length_le
      exact .inr ⟨Nat.le_trans (Nat.le_of_not_lt fun hlt ↦ hfull (.inr hlt)) hle, rfl⟩

end Aggregator

/-! ## Columns -/

namespace Columns

variable {columns : Columns} {entries : List (Nat × Bytes)}

theorem exists_put {column : Nat} (h : column < columns.size) (value : Bytes) :
    ∃ columns', columns.put column value = .ok columns' ∧ columns'.size = columns.size :=
  ⟨_, if_pos h, Array.size_setIfInBounds ..⟩

/-- Columns that exist can be filled. -/
theorem exists_putAll (h : ∀ column ∈ entries.map Prod.fst, column < columns.size) :
    ∃ columns', columns.putAll entries = .done columns' ∧ columns'.size = columns.size := by
  induction entries generalizing columns with
  | nil => exact ⟨columns, rfl, rfl⟩
  | cons entry entries ih =>
    rw [List.map_cons, List.forall_mem_cons] at h
    obtain ⟨mid, hmid, hsize⟩ := exists_put h.1 entry.2
    have hrest : ∀ column ∈ entries.map Prod.fst, column < mid.size := by
      rw [hsize]
      exact h.2
    obtain ⟨columns', hall, hsize'⟩ := ih hrest
    refine ⟨columns', ?_, hsize'.trans hsize⟩
    rw [putAll, Step.each_cons]
    dsimp only
    rw [hmid]
    exact hall

end Columns

end Rollup
