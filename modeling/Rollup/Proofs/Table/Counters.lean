import Mathlib.Algebra.Order.Group.Nat
import Mathlib.Algebra.Order.Monoid.Prod
import Rollup.Proofs.Table.Aggregator

/-!
# Numbers of groups and handles

New groups take numbers and handles, and an aggregator has 2³² of each.  How many
there are left is all that the beginning of a group can depend on, besides its
first row: of two aggregators for the same aggregate, the one that has used no more
of them begins every group that the other one begins (`verdict_start`).
-/

namespace Rollup

open Outcome

/-- The numbers and the handles that a new group takes. -/
def Aggregate.draws : Aggregate → Nat × Nat
  | .nothing | .count _ | .sum _ _ | .extremum _ _ _ => (0, 0)
  | .bestRow _ _ _ => (0, 1)
  | .distinct _ _ => (1, 0)

theorem Aggregate.draws_le (aggregate : Aggregate) : aggregate.draws ≤ (1, 1) := by
  cases aggregate <;> simp [draws]

variable [NumberReader]

namespace Aggregator

/-- The numbers and the handles that have been taken. -/
def drawn (a : Aggregator) : Nat × Nat := (a.nextGroup, a.arena.size)

/-- The numbers and handles of a group whose first row is taken in. -/
theorem drawn_start {a : Aggregator} {row : Row} {s : Accumulator} (h : (a.start row).2 = .ok s) :
    (a.start row).1.drawn = a.drawn + a.aggregate.draws := by
  obtain ⟨aggregate, arena, seen, nextGroup⟩ := a
  cases aggregate with
  | nothing | count column | sum field column | extremum goal field column => rfl
  | bestRow goal field carried =>
    unfold start at h ⊢
    dsimp only at h ⊢
    split at h
    · cases h
    · split at h
      · cases h
      · obtain ⟨handle, hstore, -⟩ := map_eq_ok.1 h
        have hroom := Nat.not_le.2 (Arena.size_lt_of_store hstore)
        exact congrArg (nextGroup, ·) ((Arena.size_store ..).trans (if_neg hroom))
  | distinct field column =>
    unfold start at h ⊢
    dsimp only at h ⊢
    split at h
    · cases h
    · rename_i hroom
      rw [if_neg hroom]
      split at h
      · cases h
      · rfl

/-- Of two aggregators, the one that has taken no more of them also has not afterwards,
whatever becomes of the row. -/
theorem drawn_start_mono {a b : Aggregator} (hsame : b.aggregate = a.aggregate)
    (hdrawn : b.drawn ≤ a.drawn) (row : Row) : (b.start row).1.drawn ≤ (a.start row).1.drawn := by
  obtain ⟨aggregate, arena, seen, nextGroup⟩ := a
  obtain ⟨_, arenaB, seenB, nextGroupB⟩ := b
  cases hsame
  obtain ⟨hgroups, hhandles⟩ := hdrawn
  cases aggregate with
  | nothing | count column | sum field column | extremum goal field column =>
    exact ⟨hgroups, hhandles⟩
  | bestRow goal field carried =>
    unfold start
    dsimp only
    cases number row field with
    | error e => exact ⟨hgroups, hhandles⟩
    | ok x =>
      cases carriedBlob carried row with
      | error e => exact ⟨hgroups, hhandles⟩
      | ok blob =>
        refine ⟨hgroups, ?_⟩
        simp only [drawn, Arena.size_store] at hhandles ⊢
        split <;> split <;> omega
  | distinct field column =>
    have hnumbers : nextGroupB ≤ nextGroup := hgroups
    unfold start
    dsimp only
    by_cases hfull : 1 <<< 32 ≤ nextGroup + 1
    · rw [if_pos hfull]
      by_cases hfull' : 1 <<< 32 ≤ nextGroupB + 1
      · rw [if_pos hfull']
        exact ⟨hgroups, hhandles⟩
      · -- Only the second has a number left, as it has taken fewer.
        rw [if_neg hfull']
        cases row.field field with
        | error e => exact ⟨hgroups, hhandles⟩
        | ok value => exact ⟨show nextGroupB + 1 ≤ nextGroup by omega, hhandles⟩
    · rw [if_neg hfull, if_neg (by omega)]
      cases row.field field with
      | error e => exact ⟨hgroups, hhandles⟩
      | ok value => exact ⟨Nat.succ_le_succ hnumbers, hhandles⟩

/-- A group takes what it needs or nothing, whatever becomes of the row. -/
theorem drawn_start_cases (a : Aggregator) (row : Row) :
    (a.start row).1.drawn = a.drawn ∨ (a.start row).1.drawn = a.drawn + a.aggregate.draws := by
  rcases a.start_cases row with h | ⟨_, _, _, blob, haggregate, h⟩ | ⟨_, _, _, haggregate, h⟩
  · exact .inl (congrArg drawn h)
  · rw [h, haggregate]
    by_cases hfull : 1 <<< 32 ≤ a.arena.size
    · exact .inl (congrArg (a.nextGroup, ·) ((Arena.size_store ..).trans (if_pos hfull)))
    · exact .inr (congrArg (a.nextGroup, ·) ((Arena.size_store ..).trans (if_neg hfull)))
  · rw [h, haggregate]
    exact .inr rfl

theorem drawn_start_le (a : Aggregator) (row : Row) :
    (a.start row).1.drawn ≤ a.drawn + a.aggregate.draws := by
  rcases a.drawn_start_cases row with h | h <;> rw [h]
  exact le_self_add

/-- Further rows take none. -/
@[simp] theorem drawn_absorb (a : Aggregator) (row : Row) (s : Accumulator) :
    (a.absorb row s).state.1.drawn = a.drawn := by
  rcases a.absorb_cases row s with h | ⟨_, _, arena, hupdate, h⟩ | ⟨_, _, h⟩ <;> rw [h]
  · exact congrArg (a.nextGroup, ·) (Arena.size_update hupdate)
  · rfl

/-- The error says that there are no numbers or handles left. -/
inductive Exhausted (a : Aggregator) : Error → Prop
  | groups (h : 1 <<< 32 ≤ a.nextGroup + 1) : Exhausted a (.defect .groupsExhausted)
  | handles (h : 1 <<< 32 ≤ a.arena.size) : Exhausted a (.defect .handlesExhausted)

/-- An aggregator that has used no more numbers and handles begins a group as well, and
refuses the first row for the same reason. -/
theorem verdict_start {a b : Aggregator} (hsame : b.aggregate = a.aggregate)
    (hdrawn : b.drawn ≤ a.drawn) (row : Row) :
    (∃ e, (a.start row).2 = .error e ∧ Exhausted a e) ∨
      verdict (a.start row).2 = verdict (b.start row).2 := by
  obtain ⟨aggregate, arena, seen, nextGroup⟩ := a
  obtain ⟨_, arenaB, seenB, nextGroupB⟩ := b
  cases hsame
  have hgroups : nextGroupB ≤ nextGroup := hdrawn.1
  have hhandles : arenaB.size ≤ arena.size := hdrawn.2
  cases aggregate with
  | nothing | count column => exact .inr rfl
  | sum field column | extremum goal field column =>
    exact .inr ((verdict_map _ _).trans (verdict_map _ _).symm)
  | bestRow goal field carried =>
    unfold start
    dsimp only
    cases number row field with
    | error e => exact .inr rfl
    | ok x =>
      cases carriedBlob carried row with
      | error e => exact .inr rfl
      | ok blob =>
        by_cases hfull : 1 <<< 32 ≤ arena.size
        · refine .inl ⟨_, ?_, .handles hfull⟩
          dsimp only
          rw [Arena.store_of_full hfull]
          rfl
        · have hroom : arenaB.size < 1 <<< 32 :=
            Nat.lt_of_le_of_lt hhandles (Nat.lt_of_not_le hfull)
          right
          dsimp only
          rw [verdict_map, verdict_map, Arena.verdict_store (Nat.lt_of_not_le hfull),
            Arena.verdict_store hroom]
  | distinct field column =>
    unfold start
    dsimp only
    split
    · rename_i hfull
      exact .inl ⟨_, rfl, .groups hfull⟩
    · rename_i hroom
      rw [if_neg fun hfull ↦ hroom (Nat.le_trans hfull (Nat.succ_le_succ hgroups))]
      right
      cases row.field field <;> rfl

end Aggregator

end Rollup
