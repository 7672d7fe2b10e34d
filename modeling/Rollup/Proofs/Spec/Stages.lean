import Rollup.Spec.Parser

/-!
# Which stages a spec can have

Only the first stage of a spec may be empty.  So behind it there is no stage that
neither filters nor prints columns of its own (`not_idle_of_parse`), and if nothing is
behind it, it is not such a stage either unless the spec is blank
(`not_idle_of_not_blank`).
-/

namespace Rollup.Spec

open Outcome Pipeline

/-- A stage with an item does something. -/
theorem not_idle_assemble (i : Item) (is : List Item) : isIdle (assemble (i :: is)) = false := by
  rw [isIdle, Bool.and_eq_false_iff]
  cases i with
  | filter f => exact .inr rfl
  | field n =>
    left
    rw [Stage.isImplicit, decide_eq_false_iff_not, assemble]
    dsimp only
    split
    · intro h
      cases h
    · intro h
      cases h
  | component c =>
    left
    rw [Stage.isImplicit, decide_eq_false_iff_not]
    intro h
    cases h

/-- What does not begin with an arrow or the end begins with an item. -/
theorem exists_item {stop : Nat} {ts left : List Token} {is : List (Nat × Item)}
    (h : items stop ts = .ok (is, left)) (harrow : (front stop ts).kind ≠ .arrow)
    (hstop : (front stop ts).kind ≠ .stop) : ∃ first rest, is = first :: rest := by
  rw [items.eq_def] at h
  split at h
  · exact absurd rfl hstop
  · exact absurd rfl harrow
  · exact absurd rfl hstop
  · split at h
    · cases h
    · obtain ⟨⟨is', left'⟩, -, heq⟩ := map_eq_ok.1 h
      cases heq
      exact ⟨_, _, rfl⟩
  · cases h

theorem not_idle_stage {stop : Nat} {ts left : List Token} {s : Stage}
    (h : stage stop ts = .ok (s, left)) (harrow : (front stop ts).kind ≠ .arrow)
    (hstop : (front stop ts).kind ≠ .stop) : isIdle s = false := by
  rw [stage] at h
  split at h
  · cases h
  · rename_i is left' hitems
    obtain ⟨first, rest, rfl⟩ := exists_item hitems harrow hstop
    split at h
    · cases h
    · cases h
      exact not_idle_assemble _ _

theorem not_idle_moreStages {stop : Nat} {ts : List Token} {stages : List Stage}
    (h : moreStages stop ts = .ok stages) : ∀ s ∈ stages, isIdle s = false := by
  fun_induction moreStages stop ts generalizing stages with
  | case1 =>
    cases h
    exact List.forall_mem_nil _
  | case2 => cases h
  | case3 => cases h
  | case4 t rest ht next hnext s left hstage hle =>
    rename_i ih
    obtain ⟨others, hothers, rfl⟩ := map_eq_ok.1 h
    rw [Bool.or_eq_true, decide_eq_true_eq, decide_eq_true_eq, not_or] at hnext
    exact List.forall_mem_cons.2 ⟨not_idle_stage hstage hnext.1 hnext.2, ih hothers⟩
  | case5 => cases h

/-- Behind the first stage, all stages do something. -/
theorem not_idle_of_parse {text : String} {p : Pipeline} (h : parse text = .ok p) :
    ∃ first rest, p.stages = first :: rest ∧ ∀ s ∈ rest, isIdle s = false := by
  rw [parse] at h
  split at h
  · cases h
  · rw [pipelineOf] at h
    split at h
    · cases h
    · rename_i first left _
      obtain ⟨rest, hrest, rfl⟩ := map_eq_ok.1 h
      exact ⟨first, rest, rfl, not_idle_moreStages hrest⟩

/-! ## Specs that are not blank -/

theorem exists_lexeme {position next : Nat} {c : Char} {rest left : List Char}
    {found : List Token} (h : lexeme position c rest = .ok (found, next, left)) :
    ∃ t more, found = t :: more ∧ t.kind ≠ .stop := by
  grind [lexeme]

theorem exists_token {position : Nat} {text : List Char} {ts : List Token}
    (h : tokensFrom position text = .ok ts) (hblank : ∃ c ∈ text, isAsciiBlank c = false) :
    ∃ t rest, ts = t :: rest ∧ t.kind ≠ .stop := by
  fun_induction tokensFrom position text generalizing ts with
  | case1 =>
    obtain ⟨c, hc, -⟩ := hblank
    cases hc
  | case2 position c rest hc ih =>
    obtain ⟨d, hd, hd'⟩ := hblank
    rcases List.mem_cons.1 hd with rfl | hd
    · cases hc.symm.trans hd'
    · exact ih h ⟨d, hd, hd'⟩
  | case3 => cases h
  | case4 position c rest hc found next left hfound hle ih =>
    obtain ⟨ts', -, rfl⟩ := map_eq_ok.1 h
    obtain ⟨t, more, rfl, ht⟩ := exists_lexeme hfound
    exact ⟨t, more ++ ts', rfl, ht⟩

theorem moreStages_ne_nil {stop : Nat} {ts : List Token} {stages : List Stage}
    (h : moreStages stop ts = .ok stages) (hne : ts ≠ []) : stages ≠ [] := by
  fun_induction moreStages stop ts generalizing stages with
  | case1 => exact absurd rfl hne
  | case4 t rest ht next hnext s left hstage hle =>
    obtain ⟨others, -, rfl⟩ := map_eq_ok.1 h
    exact List.cons_ne_nil _ _
  | _ => cases h

/-- In front of an arrow there is nothing to read. -/
theorem stage_of_arrow {stop : Nat} {t : Token} {rest left : List Token} {s : Stage}
    (ht : t.kind = .arrow) (h : stage stop (t :: rest) = .ok (s, left)) : left = t :: rest := by
  obtain ⟨kind, position⟩ := t
  obtain rfl : kind = .arrow := ht
  rw [stage, items] at h
  cases h
  rfl

/-- The only stage of a spec that is not blank does something. -/
theorem not_idle_of_not_blank {text : String} {first : Stage} (h : parse text = .ok ⟨[first]⟩)
    (hblank : ∃ c ∈ text.toList, isAsciiBlank c = false) : isIdle first = false := by
  rw [parse] at h
  split at h
  · cases h
  · rename_i ts hts
    obtain ⟨t, rest, rfl, hstop⟩ := exists_token hts hblank
    rw [pipelineOf] at h
    split at h
    · cases h
    · rename_i s left hstage
      obtain ⟨others, hothers, heq⟩ := map_eq_ok.1 h
      cases heq
      refine not_idle_stage hstage (fun harrow ↦ ?_) hstop
      obtain rfl := stage_of_arrow harrow hstage
      exact moreStages_ne_nil hothers (List.cons_ne_nil _ _) rfl

end Rollup.Spec
