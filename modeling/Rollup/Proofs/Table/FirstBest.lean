import Mathlib.Data.List.Induction
import Rollup.Proofs.Number.Exact
import Rollup.Proofs.Table.Summary

/-!
# The first of the best rows

A row replaces the best one so far only if its number is better, so that of several rows with
the best value the first is kept.  For numbers that are compared exactly (`Numeric.Faithful`),
"best" means the exact value: the champion of some rows is the first of them whose value none
of the others beats (`Aggregate.Champion.firstBest`).

The accumulator may hold an integer or a double on the way, and go over from one to the other.
What carries the induction over the rows is that its value is that of the champion so far
(`Aggregate.exists_champion`).
-/

namespace Rollup

open Outcome
open Numeric (Beats Faithful)

namespace Aggregate

variable [NumberReader] {kind : Numeric → Prop} {goal : Goal} {field : Nat} {rows : List Row}
  {champion row : Row} {v w : WithBotTop ℚ} {x : Numeric} {xs : List Numeric}

/-- The exact value in a field of a row. -/
def valueIn (field : Nat) (row : Row) : Option (WithBotTop ℚ) :=
  match Aggregator.number row field with
  | .ok x => x.value?
  | .error _ => none

theorem valueIn_of_number (h : Aggregator.number row field = .ok x) :
    valueIn field row = x.value? := by
  rw [valueIn, h]

/-- The row is the first of all with the value `v`, and `v` is not beaten. -/
def FirstBest (goal : Goal) (field : Nat) (rows : List Row) (row : Row) (v : WithBotTop ℚ) : Prop :=
  ∃ front behind, rows = front ++ row :: behind ∧ valueIn field row = some v ∧
    (∀ other ∈ front, ∃ w, valueIn field other = some w ∧ Beats goal v w) ∧
    ∀ other ∈ behind, ∃ w, valueIn field other = some w ∧ ¬ Beats goal w v

namespace FirstBest

theorem singleton (h : valueIn field row = some v) : FirstBest goal field [row] row v :=
  ⟨[], [], rfl, h, List.forall_mem_nil _, List.forall_mem_nil _⟩

/-- No row beats the first of the best. -/
theorem unbeaten (h : FirstBest goal field rows champion v) :
    ∀ other ∈ rows, ∃ w, valueIn field other = some w ∧ ¬ Beats goal w v := by
  obtain ⟨front, behind, rfl, hv, hfront, hbehind⟩ := h
  refine List.forall_mem_append.2 ⟨?_, List.forall_mem_cons.2 ⟨?_, hbehind⟩⟩
  · intro other hother
    obtain ⟨w, hw, hbeats⟩ := hfront other hother
    exact ⟨w, hw, hbeats.asymm⟩
  · exact ⟨v, hv, Beats.irrefl goal v⟩

/-- A row that does not beat it leaves it the first of the best. -/
theorem snoc_of_not_beats (h : FirstBest goal field rows champion v)
    (hw : valueIn field row = some w) (hnot : ¬ Beats goal w v) :
    FirstBest goal field (rows ++ [row]) champion v := by
  obtain ⟨front, behind, rfl, hv, hfront, hbehind⟩ := h
  refine ⟨front, behind ++ [row], ?_, hv, hfront, ?_⟩
  · rw [List.append_assoc, List.cons_append]
  · exact List.forall_mem_append.2 ⟨hbehind, List.forall_mem_singleton.2 ⟨w, hw, hnot⟩⟩

/-- A row that beats it beats all rows. -/
theorem snoc_of_beats (h : FirstBest goal field rows champion v)
    (hw : valueIn field row = some w) (hbeats : Beats goal w v) :
    FirstBest goal field (rows ++ [row]) row w := by
  refine ⟨rows, [], rfl, hw, ?_, List.forall_mem_nil _⟩
  intro other hother
  obtain ⟨u, hu, hunbeaten⟩ := h.unbeaten other hother
  exact ⟨u, hu, hbeats.of_unbeaten hunbeaten⟩

end FirstBest

/-- The best number has the value of the champion, which is the first of the best rows. -/
theorem exists_champion (goal : Goal) (hkind : Faithful kind) (hne : rows ≠ [])
    (hxs : readings field rows = .ok xs) (hall : ∀ x ∈ xs, kind x) :
    ∃ champion v, Champion goal field rows champion ∧ FirstBest goal field rows champion v ∧
      kind (best goal xs) ∧ (best goal xs).value? = some v := by
  induction rows using List.reverseRecOn generalizing xs with
  | nil => exact absurd rfl hne
  | append_singleton rows row ih =>
    obtain ⟨ys, zs, hys, hzs, rfl⟩ := mapM_append_eq_ok.1 hxs
    obtain ⟨x, us, hx, hus, rfl⟩ := mapM_cons_eq_ok.1 hzs
    obtain rfl : us = [] := (Except.ok.inj hus).symm
    obtain ⟨hkinds, hkindx⟩ := List.forall_mem_append.1 hall
    replace hkindx := List.forall_mem_singleton.1 hkindx
    obtain ⟨w, hw⟩ := hkind.value hkindx
    have hrow : valueIn field row = some w := (valueIn_of_number hx).trans hw
    cases ys with
    | nil =>
      obtain rfl : rows = [] := List.eq_nil_of_length_eq_zero (length_of_mapM hys).symm
      exact ⟨row, w, .singleton hx, .singleton hrow, hkindx, hw⟩
    | cons y ys =>
      have hrows : rows ≠ [] := by
        rintro rfl
        cases hys
      obtain ⟨champion, v, hchampion, hfirst, hbest, hv⟩ := ih hrows hys hkinds
      rw [best_snoc, Numeric.improve]
      rcases hkind.improves goal hbest hkindx hv hw with
        ⟨hbeats, z, hz, hkindz, hvalue⟩ | ⟨hnot, hnone⟩
      · rw [hz, Option.getD_some]
        have hsome : ((best goal (y :: ys)).improvement? goal x).isSome := by
          rw [hz]
          rfl
        exact ⟨row, w, .snoc_of_some hys hx hsome, hfirst.snoc_of_beats hrow hbeats, hkindz, hvalue⟩
      · rw [hnone, Option.getD_none]
        exact ⟨champion, v, hchampion.snoc_of_none hys hx hnone,
          hfirst.snoc_of_not_beats hrow hnot, hbest, hv⟩

/-! ## Fields with comparable numbers -/

/-- All numbers in the field are integers; or each is a double, or an integer of 53 bits. -/
def Comparable (field : Nat) (rows : List Row) : Prop :=
  (∀ row ∈ rows, ∃ i, Aggregator.number row field = .ok (.int i)) ∨
    ∀ row ∈ rows, (∃ d, Aggregator.number row field = .ok (.float d) ∧ d ≠ .nan) ∨
      ∃ i, Aggregator.number row field = .ok (.int i) ∧ i.natAbs ≤ 2 ^ 53

/-- A field that is read as a double is read as one in range. -/
theorem inRange_of_number {d : Binary64} (h : Aggregator.number row field = .ok (.float d)) :
    d.InRange := by
  unfold Aggregator.number at h
  split at h
  · cases h
  · exact Numeric.inRange_of_make h

/-- Rows with numbers of a kind have readings of this kind. -/
theorem exists_readings (h : ∀ row ∈ rows, ∃ x, Aggregator.number row field = .ok x ∧ kind x) :
    ∃ xs, readings field rows = .ok xs ∧ ∀ x ∈ xs, kind x := by
  induction rows with
  | nil => exact ⟨[], rfl, List.forall_mem_nil _⟩
  | cons row rows ih =>
    rw [List.forall_mem_cons] at h
    obtain ⟨⟨x, hx, hkind⟩, hrest⟩ := h
    obtain ⟨xs, hxs, hkinds⟩ := ih hrest
    exact ⟨x :: xs, mapM_cons_eq_ok.2 ⟨x, xs, hx, hxs, rfl⟩, List.forall_mem_cons.2 ⟨hkind, hkinds⟩⟩

theorem Comparable.exists_number (h : Comparable field rows) :
    ∀ row ∈ rows, ∃ x, Aggregator.number row field = .ok x := by
  intro row hrow
  rcases h with hints | hdoubles
  · obtain ⟨i, hi⟩ := hints row hrow
    exact ⟨_, hi⟩
  · rcases hdoubles row hrow with ⟨d, hd, -⟩ | ⟨i, hi, -⟩
    · exact ⟨_, hd⟩
    · exact ⟨_, hi⟩

/-- Comparable numbers are of a kind that is compared exactly. -/
theorem Comparable.exists_faithful (h : Comparable field rows) :
    ∃ kind xs, Faithful kind ∧ readings field rows = .ok xs ∧ ∀ x ∈ xs, kind x := by
  rcases h with hints | hdoubles
  · have hall (row : Row) (hrow : row ∈ rows) :
        ∃ x, Aggregator.number row field = .ok x ∧ x.IsInt := by
      obtain ⟨i, hi⟩ := hints row hrow
      exact ⟨_, hi, i, rfl⟩
    obtain ⟨xs, hxs, hkinds⟩ := exists_readings hall
    exact ⟨_, xs, Numeric.faithful_ints, hxs, hkinds⟩
  · have hall (row : Row) (hrow : row ∈ rows) :
        ∃ x, Aggregator.number row field = .ok x ∧ x.IsDouble := by
      rcases hdoubles row hrow with ⟨d, hd, hnumber⟩ | ⟨i, hi, hsmall⟩
      · exact ⟨_, hd, .float hnumber (inRange_of_number hd)⟩
      · exact ⟨_, hi, .int hsmall⟩
    obtain ⟨xs, hxs, hkinds⟩ := exists_readings hall
    exact ⟨_, xs, Numeric.faithful_doubles, hxs, hkinds⟩

/-- The row whose fields are kept is the first of the best. -/
theorem Champion.firstBest (h : Champion goal field rows champion)
    (hcomparable : Comparable field rows) : ∃ v, FirstBest goal field rows champion v := by
  obtain ⟨kind, xs, hkind, hxs, hall⟩ := hcomparable.exists_faithful
  have hne : rows ≠ [] := by
    cases h
    exact List.append_ne_nil_of_right_ne_nil _ (List.cons_ne_nil _ _)
  obtain ⟨other, v, hother, hfirst, -⟩ := exists_champion goal hkind hne hxs hall
  rw [h.unique hother]
  exact ⟨v, hfirst⟩

end Aggregate

end Rollup
