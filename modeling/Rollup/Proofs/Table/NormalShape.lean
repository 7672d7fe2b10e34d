import Rollup.Proofs.Table.NormalForm

/-!
# What a normal form looks like

A pipeline is normal if it has a stage, if no stage before the last one is implicit, and if
an idle stage stands alone (`Pipeline.IsNormal`).  Normalizing makes every pipeline normal
(`isNormal_normalize`) and leaves a normal one as it is (`IsNormal.normalize_eq`).

On the way filters wait in front of the stages that are left, so what is kept is stated for
filters that wait and stages together: the filters stay the same list (`filters_handOn`), and so do
the bodies of explicit stages (`explicitBodies_handOn`).  The idle stages that are dropped
at the end have neither (`filters_withoutIdle`, `explicitBodies_withoutIdle`).
-/

namespace Rollup.Pipeline

variable {stages : List Stage}

/-- Only the last stage can be implicit, and an idle stage stands alone. -/
structure IsNormal (p : Pipeline) : Prop where
  ne_nil : p.stages ≠ []
  explicit : ∀ s ∈ p.stages.dropLast, s.isImplicit = false
  idle_alone : ∀ s ∈ p.stages, isIdle s → p.stages = [s]

/-- All filters, stage by stage. -/
def filters (stages : List Stage) : List Filter := stages.flatMap Stage.filters

/-- What the stages do that print columns of their own or aggregate. -/
def explicitBodies (stages : List Stage) : List Body :=
  (stages.filter fun s ↦ !s.isImplicit).map Stage.body

/-- The stages that do something. -/
def withoutIdle (stages : List Stage) : List Stage := stages.filter fun s ↦ !isIdle s

/-! ## Handing filters on -/

theorem filters_handOn (h : stages ≠ []) (pending : List Filter) :
    filters (handOn pending stages) = pending ++ filters stages := by
  fun_induction handOn pending stages with
  | case1 => exact absurd rfl h
  | case2 pending last => simp [filters]
  | case3 pending s next rest himplicit ih =>
    rw [ih (List.cons_ne_nil _ _)]
    simp [filters]
  | case4 pending s next rest himplicit ih =>
    have hrest := ih (List.cons_ne_nil _ _)
    simp only [filters, List.flatMap_cons, List.nil_append] at hrest ⊢
    rw [hrest, List.append_assoc]

theorem explicitBodies_handOn (pending : List Filter) (stages : List Stage) :
    explicitBodies (handOn pending stages) = explicitBodies stages := by
  fun_induction handOn pending stages with
  | case1 => rfl
  | case2 pending last =>
    have hsame : Stage.isImplicit { last with filters := pending ++ last.filters } =
        last.isImplicit := rfl
    cases himplicit : last.isImplicit <;> simp [explicitBodies, hsame, himplicit]
  | case3 pending s next rest himplicit ih =>
    rw [ih]
    simp [explicitBodies, himplicit]
  | case4 pending s next rest himplicit ih =>
    have hsame : Stage.isImplicit { s with filters := pending ++ s.filters } = s.isImplicit := rfl
    simp only [explicitBodies, List.filter_cons, hsame, himplicit] at ih ⊢
    simp [ih]

/-- No implicit stage stays before the end. -/
theorem not_isImplicit_of_mem_dropLast_handOn (pending : List Filter) (stages : List Stage) :
    ∀ s ∈ (handOn pending stages).dropLast, s.isImplicit = false := by
  fun_induction handOn pending stages with
  | case1 => exact List.forall_mem_nil _
  | case2 => exact List.forall_mem_nil _
  | case3 pending s next rest himplicit ih => exact ih
  | case4 pending s next rest himplicit ih =>
    rw [List.dropLast_cons_of_ne_nil (handOn_ne_nil (List.cons_ne_nil _ _) [])]
    exact List.forall_mem_cons.2 ⟨eq_false_of_ne_true himplicit, ih⟩

/-! ## Dropping idle stages -/

theorem filters_withoutIdle (stages : List Stage) :
    filters (withoutIdle stages) = filters stages := by
  induction stages with
  | nil => rfl
  | cons s rest ih =>
    rw [filters, filters, withoutIdle] at ih
    rw [filters, filters, withoutIdle, List.flatMap_cons]
    cases hidle : isIdle s with
    | true =>
      rw [List.filter_cons_of_neg (by simp [hidle]), ih, eq_passthrough_of_isIdle hidle]
      rfl
    | false => rw [List.filter_cons_of_pos (by simp [hidle]), List.flatMap_cons, ih]

theorem explicitBodies_withoutIdle (stages : List Stage) :
    explicitBodies (withoutIdle stages) = explicitBodies stages := by
  rw [explicitBodies, explicitBodies, withoutIdle, List.filter_filter]
  congr 1
  refine List.filter_congr fun s _ ↦ ?_
  cases himplicit : s.isImplicit with
  | true => rfl
  | false => simp [isIdle, himplicit]

/-- Of stages that are explicit before the end, only the last can be dropped. -/
theorem withoutIdle_concat {front : List Stage} (h : ∀ s ∈ front, s.isImplicit = false)
    (last : Stage) :
    withoutIdle (front ++ [last]) = if isIdle last then front else front ++ [last] := by
  have hfront : withoutIdle front = front := by
    refine List.filter_eq_self.2 fun s hs ↦ ?_
    simp [isIdle, h s hs]
  rw [withoutIdle, List.filter_append, ← withoutIdle, hfront]
  cases hidle : isIdle last <;> simp [hidle]

theorem not_isImplicit_of_mem_dropLast_withoutIdle
    (h : ∀ s ∈ stages.dropLast, s.isImplicit = false) :
    ∀ s ∈ (withoutIdle stages).dropLast, s.isImplicit = false := by
  rcases List.eq_nil_or_concat stages with rfl | ⟨front, last, rfl⟩
  · exact h
  · rw [List.concat_eq_append, List.dropLast_concat] at h
    rw [List.concat_eq_append, withoutIdle_concat h]
    split
    · exact fun s hs ↦ h s ((List.dropLast_sublist front).mem hs)
    · rwa [List.dropLast_concat]

/-! ## Normal forms -/

/-- What normalizing does, in two passes and with a stage for a pipeline that has none left. -/
theorem stages_normalize (p : Pipeline) :
    p.normalize.stages = if withoutIdle (handOn [] p.stages) = [] then [.passthrough]
      else withoutIdle (handOn [] p.stages) := by
  rw [normalize, ← withoutIdle]
  split
  · rename_i hnone
    rw [if_pos hnone]
  · rename_i hsome
    rw [if_neg hsome]

theorem isNormal_normalize (p : Pipeline) : p.normalize.IsNormal := by
  have hexplicit := not_isImplicit_of_mem_dropLast_withoutIdle
    (not_isImplicit_of_mem_dropLast_handOn [] p.stages)
  constructor
  · rw [stages_normalize]
    split
    · exact List.cons_ne_nil _ _
    · assumption
  · rw [stages_normalize]
    split
    · exact List.forall_mem_nil _
    · exact hexplicit
  · rw [stages_normalize]
    split
    · rintro s (_ | ⟨_, hs⟩) _
      · rfl
      · cases hs
    · intro s hs hidle
      have hkept := (List.mem_filter.1 hs).2
      rw [hidle] at hkept
      cases hkept

/-- A normal pipeline is its own normal form. -/
theorem IsNormal.normalize_eq {p : Pipeline} (h : p.IsNormal) : p.normalize = p := by
  obtain ⟨stages⟩ := p
  obtain ⟨hne, hexplicit, halone⟩ := h
  have hstages := stages_normalize ⟨stages⟩
  rw [handOn_eq_self hexplicit] at hstages
  by_cases hidle : ∃ s ∈ stages, isIdle s
  · obtain ⟨s, hs, hidle⟩ := hidle
    obtain rfl : stages = [s] := halone s hs hidle
    rw [eq_passthrough_of_isIdle hidle]
    rfl
  · have hall : withoutIdle stages = stages := by
      refine List.filter_eq_self.2 fun s hs ↦ ?_
      rw [eq_false_of_ne_true fun h ↦ hidle ⟨s, hs, h⟩, Bool.not_false]
    rw [hall, if_neg hne] at hstages
    exact congrArg Pipeline.mk hstages

theorem filters_normalize (p : Pipeline) : filters p.normalize.stages = filters p.stages := by
  have hkept : filters (withoutIdle (handOn [] p.stages)) = filters p.stages := by
    rw [filters_withoutIdle]
    by_cases hne : p.stages = []
    · rw [hne]
      rfl
    · rw [filters_handOn hne, List.nil_append]
  rw [stages_normalize]
  split
  · rename_i hnone
    rw [← hkept, hnone]
    rfl
  · exact hkept

theorem explicitBodies_normalize (p : Pipeline) :
    explicitBodies p.normalize.stages = explicitBodies p.stages := by
  have hkept : explicitBodies (withoutIdle (handOn [] p.stages)) = explicitBodies p.stages := by
    rw [explicitBodies_withoutIdle, explicitBodies_handOn]
  rw [stages_normalize]
  split
  · rename_i hnone
    rw [← hkept, hnone]
    rfl
  · exact hkept

/-- The normal form of a pipeline is normal, and it is the pipeline itself exactly if that was
normal.  So it is its own normal form.  It has the filters of the pipeline in their order, and
its explicit stages are those of the pipeline, in their order and with what they do. -/
theorem normalize_normal (p : Pipeline) :
    p.normalize.IsNormal ∧ (p.IsNormal ↔ p.normalize = p) ∧ p.normalize.normalize = p.normalize ∧
      filters p.normalize.stages = filters p.stages ∧
      explicitBodies p.normalize.stages = explicitBodies p.stages := by
  refine ⟨isNormal_normalize p, ⟨IsNormal.normalize_eq, fun h ↦ ?_⟩,
    (isNormal_normalize p).normalize_eq, filters_normalize p, explicitBodies_normalize p⟩
  rw [← h]
  exact isNormal_normalize p

/-- Filters of three stages, the second of them idle, come together in the last. -/
example : normalize ⟨[⟨[⟨0, "A"⟩], .project []⟩, ⟨[], .project []⟩, ⟨[⟨1, "B"⟩], .project []⟩]⟩ =
    ⟨[⟨[⟨0, "A"⟩, ⟨1, "B"⟩], .project []⟩]⟩ := by
  decide

end Rollup.Pipeline
