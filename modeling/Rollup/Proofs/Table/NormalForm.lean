import Rollup.Proofs.Outcome
import Rollup.Proofs.Spec.Stages
import Rollup.Proofs.Table.Meaning

/-!
# The normal form means the same

In normal form the filters of implicit stages stand in front of those of the next
stage that stays.  They keep their order, and so every stage that stays is given
the records that it is given without them, or the same pattern is found not to be
one (`meaningFrom_handOn`).

The only other stages that are dropped are idle.  A spec has at most one of these,
the first, and if it is dropped it was alone and stands again in its own place
(`normalize_eq`).
-/

namespace Rollup

open Outcome

/-! ## Filters in front of filters -/

theorem Record.filter_passes_nil (records : List Record) : records.filter (passes []) = records :=
  List.filter_eq_self.2 fun _ _ ↦ rfl

theorem Record.filter_passes_append (tests tests' : List FieldTest) (records : List Record) :
    records.filter (passes (tests ++ tests')) =
      (records.filter (passes tests)).filter (passes tests') := by
  rw [List.filter_filter]
  refine List.filter_congr fun record _ ↦ ?_
  rw [passes, List.all_append, Bool.and_comm]
  rfl

namespace Stage

variable {engine : PatternEngine} {stage : Stage}

theorem testsOf_nil : testsOf engine [] = .ok [] := rfl

theorem testsOf_append (filters others : List Filter) :
    testsOf engine (filters ++ others) = (do
      let tests ← testsOf engine filters
      let tests' ← testsOf engine others
      return tests ++ tests') :=
  List.mapM_append

/-- Filters in front of those of a stage keep records from it. -/
theorem meaning_prepend [NumberReader] (pending : List Filter) (order : GroupOrder) (isLast : Bool)
    (stage : Stage) (records : List Record) :
    meaning engine order isLast { stage with filters := pending ++ stage.filters } records =
      testsOf engine pending >>= fun tests ↦
        meaning engine order isLast stage (records.filter (Record.passes tests)) := by
  rw [meaning, testsOf_append]
  cases testsOf engine pending with
  | error e => rfl
  | ok tests =>
    rw [ok_bind, ok_bind, meaning]
    cases testsOf engine stage.filters with
    | error e => rfl
    | ok tests' =>
      rw [ok_bind, ok_bind, pure, ← Record.filter_passes_append]
      rfl

theorem body_of_isImplicit (h : stage.isImplicit) : stage.body = .project [] :=
  of_decide_eq_true h

theorem isAggregating_of_isImplicit (h : stage.isImplicit) : stage.isAggregating = false := by
  rw [isAggregating, body_of_isImplicit h]

/-- Before the end an implicit stage only filters. -/
theorem meaning_of_isImplicit [NumberReader] (h : stage.isImplicit) (order : GroupOrder)
    (records : List Record) : meaning engine order false stage records =
      testsOf engine stage.filters >>= fun tests ↦
        .ok (records.filter (Record.passes tests)) := by
  rw [meaning, body_of_isImplicit h]
  rfl

end Stage

namespace Pipeline

variable {engine : PatternEngine} {orders : Nat → GroupOrder} {stages : List Stage}

/-! ## Handing filters on -/

theorem handOn_ne_nil (h : stages ≠ []) (pending : List Filter) : handOn pending stages ≠ [] := by
  fun_induction handOn pending stages with
  | case1 => exact absurd rfl h
  | case2 => exact List.cons_ne_nil _ _
  | case3 pending s next rest himplicit ih => exact ih (List.cons_ne_nil _ _)
  | case4 => exact List.cons_ne_nil _ _

/-- Only the last stage may be implicit, and then it keeps its filters. -/
theorem handOn_eq_self (h : ∀ s ∈ stages.dropLast, s.isImplicit = false) :
    handOn [] stages = stages := by
  generalize hpending : ([] : List Filter) = pending
  fun_induction handOn pending stages with
  | case1 => rfl
  | case2 pending s =>
    subst hpending
    rfl
  | case3 pending s next rest himplicit =>
    rw [h s List.mem_cons_self] at himplicit
    cases himplicit
  | case4 pending s next rest himplicit ih =>
    subst hpending
    rw [ih (List.forall_mem_cons.1 h).2 rfl]
    rfl

theorem meaningFrom_cons [NumberReader] (rank : Nat) (stage : Stage) (rest : List Stage)
    (records : List Record) : meaningFrom engine orders rank (stage :: rest) records =
      stage.meaning engine (orders rank) rest.isEmpty records >>=
        meaningFrom engine orders (if stage.isAggregating then rank + 1 else rank) rest :=
  rfl

/-- The stages that stay are given the records that the pending filters keep. -/
theorem meaningFrom_handOn [NumberReader] (h : stages ≠ []) (pending : List Filter) (rank : Nat)
    (records : List Record) :
    meaningFrom engine orders rank (handOn pending stages) records =
      Stage.testsOf engine pending >>= fun tests ↦
        meaningFrom engine orders rank stages (records.filter (Record.passes tests)) := by
  fun_induction handOn pending stages generalizing rank records with
  | case1 => exact absurd rfl h
  | case2 pending last =>
    rw [meaningFrom_cons, Stage.meaning_prepend, bind_assoc]
    rfl
  | case3 pending s next rest himplicit ih =>
    rw [ih (List.cons_ne_nil _ _), Stage.testsOf_append, bind_assoc]
    refine bind_congr fun tests ↦ ?_
    rw [meaningFrom_cons rank s, List.isEmpty_cons, Stage.meaning_of_isImplicit himplicit,
      Stage.isAggregating_of_isImplicit himplicit, bind_assoc, bind_assoc]
    refine bind_congr fun tests' ↦ ?_
    rw [pure_bind, ok_bind, Record.filter_passes_append]
    rfl
  | case4 pending s next rest himplicit ih =>
    rw [meaningFrom_cons, Stage.meaning_prepend, bind_assoc,
      List.isEmpty_eq_false_iff.2 (handOn_ne_nil (List.cons_ne_nil next rest) [])]
    refine bind_congr fun tests ↦ ?_
    rw [meaningFrom_cons rank s, List.isEmpty_cons]
    refine bind_congr fun made ↦ ?_
    rw [ih (List.cons_ne_nil _ _), Stage.testsOf_nil, ok_bind, Record.filter_passes_nil]
    rfl

theorem meaningFrom_handOn_nil [NumberReader] (h : stages ≠ []) (rank : Nat)
    (records : List Record) : meaningFrom engine orders rank (handOn [] stages) records =
      meaningFrom engine orders rank stages records := by
  rw [meaningFrom_handOn h, Stage.testsOf_nil, ok_bind, Record.filter_passes_nil]

/-! ## Idle stages -/

theorem not_idle_prepend {s : Stage} (h : isIdle s = false) (pending : List Filter) :
    isIdle { s with filters := pending ++ s.filters } = false := by
  rw [isIdle, Bool.and_eq_false_iff] at h ⊢
  refine h.imp id fun hfilters ↦ ?_
  rw [List.isEmpty_eq_false_iff] at hfilters ⊢
  exact List.append_ne_nil_of_right_ne_nil _ hfilters

theorem not_idle_of_not_isImplicit {s : Stage} (h : ¬ s.isImplicit) : isIdle s = false := by
  rw [isIdle, eq_false_of_ne_true h, Bool.false_and]

theorem not_idle_handOn (h : ∀ s ∈ stages, isIdle s = false) (pending : List Filter) :
    ∀ s ∈ handOn pending stages, isIdle s = false := by
  fun_induction handOn pending stages with
  | case1 => exact h
  | case2 pending last =>
    rintro s (_ | ⟨_, hs⟩)
    · exact not_idle_prepend (h last List.mem_cons_self) pending
    · cases hs
  | case3 pending s next rest himplicit ih => exact ih (List.forall_mem_cons.1 h).2
  | case4 pending s next rest himplicit ih =>
    rw [List.forall_mem_cons] at h ⊢
    exact ⟨not_idle_prepend h.1 pending, ih h.2⟩

theorem eq_passthrough_of_isIdle {s : Stage} (h : isIdle s) : s = .passthrough := by
  rw [isIdle, Bool.and_eq_true, List.isEmpty_iff] at h
  obtain ⟨himplicit, hfilters⟩ := h
  obtain ⟨filters, body⟩ := s
  rw [Stage.passthrough, ← Stage.body_of_isImplicit himplicit]
  exact congrArg (Stage.mk · body) hfilters

/-- An idle stage in front of others is gone when the filters have been handed on. -/
theorem not_idle_handOn_cons {first : Stage} {rest : List Stage}
    (h : ∀ s ∈ rest, isIdle s = false) (hfirst : rest = [] → isIdle first = false) :
    ∀ s ∈ handOn [] (first :: rest), isIdle s = false := by
  cases rest with
  | nil => exact List.forall_mem_singleton.2 (not_idle_prepend (hfirst rfl) [])
  | cons next rest =>
    rw [handOn]
    split
    · exact not_idle_handOn h _
    · rename_i hexplicit
      exact List.forall_mem_cons.2 ⟨not_idle_of_not_isImplicit hexplicit, not_idle_handOn h _⟩

theorem normalize_of_not_idle (hne : stages ≠ []) (h : ∀ s ∈ handOn [] stages, isIdle s = false) :
    normalize ⟨stages⟩ = ⟨handOn [] stages⟩ := by
  have hkept : ((handOn [] stages).filter fun s ↦ !isIdle s) = handOn [] stages :=
    List.filter_eq_self.2 fun s hs ↦ by rw [h s hs, Bool.not_false]
  rw [normalize, hkept]
  split
  · rename_i hnil
    exact absurd hnil (handOn_ne_nil hne _)
  · rfl

/-- If only the first stage can be idle, handing filters on is all that is done. -/
theorem normalize_eq {first : Stage} {rest : List Stage} (h : ∀ s ∈ rest, isIdle s = false) :
    normalize ⟨first :: rest⟩ = ⟨handOn [] (first :: rest)⟩ := by
  by_cases hidle : rest = [] ∧ isIdle first = true
  · obtain ⟨rfl, hfirst⟩ := hidle
    rw [eq_passthrough_of_isIdle hfirst]
    rfl
  · refine normalize_of_not_idle (List.cons_ne_nil _ _) (not_idle_handOn_cons h fun hnone ↦ ?_)
    exact eq_false_of_ne_true fun hfirst ↦ hidle ⟨hnone, hfirst⟩

/-- A pipeline that can be written as a spec means the same as its normal form. -/
theorem meaningFrom_normalize [NumberReader] {text : String} {p : Pipeline}
    (h : Spec.parse text = .ok p) (rank : Nat) (records : List Record) :
    meaningFrom engine orders rank p.normalize.stages records =
      meaningFrom engine orders rank p.stages records := by
  obtain ⟨first, rest, hstages, hidle⟩ := Spec.not_idle_of_parse h
  obtain ⟨stages⟩ := p
  obtain rfl : stages = first :: rest := hstages
  rw [normalize_eq hidle, meaningFrom_handOn_nil (List.cons_ne_nil _ _)]

end Pipeline

end Rollup
