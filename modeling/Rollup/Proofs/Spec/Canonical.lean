import Rollup.Proofs.Spec.Lexing
import Rollup.Proofs.Spec.WellFormed

/-!
# The canonical text is read as the same pipeline

The canonical text of a stage is that of its items with blanks between them
(`WellFormed.chars_eq_joined`).  So it is enough that every item is read as itself
(`Item.exists_reads`): items with blanks between them make up the stage, and stages with
arrows between them the pipeline.

An implicit stage is the exception.  It is written as the column `_0` and comes back with
it (`Pipeline.explicit`).
-/

namespace Rollup

open Spec

/-- The canonical text of an item. -/
def Spec.Item.chars : Item → List Char
  | .filter f => f.chars
  | .field n => fieldChars n
  | .component c => c.chars

/-- The stage with the column `_0` if it is implicit. -/
def Stage.explicit (s : Stage) : Stage :=
  if s.isImplicit then ⟨s.filters, .project [0]⟩ else s

def Pipeline.explicit (p : Pipeline) : Pipeline := ⟨p.stages.map Stage.explicit⟩

/-! ## Stages as lists of items -/

section Joined

variable {α β : Type} {separator : List Char} {render : α → List Char}

theorem joined_map (f : β → α) (xs : List β) :
    joined separator render (xs.map f) = joined separator (fun x ↦ render (f x)) xs := by
  induction xs with
  | nil => rfl
  | cons x xs ih =>
    cases xs with
    | nil => rfl
    | cons y ys =>
      rw [List.map_cons, List.map_cons, joined, ← List.map_cons, ih]
      rfl

theorem joined_cons {x : α} {xs : List α} (h : xs ≠ []) :
    joined separator render (x :: xs) = render x ++ separator ++ joined separator render xs := by
  obtain ⟨y, ys, rfl⟩ := List.exists_cons_of_ne_nil h
  rfl

theorem joined_append {xs ys : List α} (h : ys ≠ []) :
    joined separator render (xs ++ ys) =
      (xs.flatMap fun x ↦ render x ++ separator) ++ joined separator render ys := by
  induction xs with
  | nil => rfl
  | cons x xs ih =>
    rw [List.cons_append, joined_cons (List.append_ne_nil_of_right_ne_nil _ h), ih,
      List.flatMap_cons, List.append_assoc _ _ (joined separator render ys)]

end Joined

namespace Stage

variable {s : Stage}

theorem explicit_of_isImplicit (h : s.isImplicit) : s.explicit = ⟨s.filters, .project [0]⟩ :=
  if_pos h

theorem explicit_of_not_isImplicit (h : s.isImplicit = false) : s.explicit = s := by
  rw [explicit, h]
  rfl

theorem not_isImplicit_explicit (s : Stage) : s.explicit.isImplicit = false := by
  cases h : s.isImplicit with
  | true => rw [explicit_of_isImplicit h]; rfl
  | false => rw [explicit_of_not_isImplicit h, h]

theorem chars_explicit (s : Stage) : s.explicit.chars = s.chars := by
  cases h : s.isImplicit with
  | true =>
    rw [explicit_of_isImplicit h, chars, chars, of_decide_eq_true h]
    rfl
  | false => rw [explicit_of_not_isImplicit h]

theorem WellFormed.explicit (h : s.WellFormed) : s.explicit.WellFormed := by
  cases himplicit : s.isImplicit with
  | true =>
    rw [explicit_of_isImplicit himplicit]
    refine ⟨fun i hi ↦ ?_, Body.noConfusion⟩
    rcases List.mem_append.1 hi with hfilter | hfield
    · exact h.item i (List.mem_append_left _ hfilter)
    · obtain rfl := List.mem_singleton.1 hfield
      exact (by decide : 0 < 1 <<< 64)
  | false => rwa [explicit_of_not_isImplicit himplicit]

theorem WellFormed.bodyItems_ne_nil (h : s.WellFormed) (himplicit : s.isImplicit = false) :
    s.bodyItems ≠ [] := by
  rw [isImplicit, decide_eq_false_iff_not] at himplicit
  have hcomponent := h.component
  rw [bodyItems]
  split
  · rename_i fields hbody
    rw [hbody] at himplicit
    rw [ne_eq, List.map_eq_nil_iff]
    rintro rfl
    exact himplicit rfl
  · rename_i components hbody
    rw [hbody] at hcomponent
    rw [ne_eq, List.map_eq_nil_iff]
    rintro rfl
    exact hcomponent rfl

/-- The text of a stage is that of its items, one after the other. -/
theorem WellFormed.chars_eq_joined (h : s.WellFormed) (himplicit : s.isImplicit = false) :
    s.chars = joined [' '] Item.chars s.items := by
  have hne := h.bodyItems_ne_nil himplicit
  rw [items, joined_append hne, List.flatMap_map, chars]
  congr 1
  rw [bodyItems] at hne ⊢
  split at hne
  · rename_i fields hbody
    rw [hbody, joined_map, Body.chars]
    · rfl
    · rintro rfl
      exact hne rfl
  · rename_i components hbody
    rw [hbody, joined_map]
    rfl

theorem filterMap_filter?_items (s : Stage) : s.items.filterMap Item.filter? = s.filters := by
  obtain ⟨filters, body⟩ := s
  cases body <;>
    simp [items, bodyItems, List.filterMap_map, Function.comp_def, Item.filter?]

theorem filterMap_field?_items (s : Stage) :
    s.items.filterMap Item.field? = match s.body with
      | .project fields => fields
      | .aggregate _ => [] := by
  obtain ⟨filters, body⟩ := s
  cases body <;>
    simp [items, bodyItems, List.filterMap_map, Function.comp_def, Item.field?]

theorem filterMap_component?_items (s : Stage) :
    s.items.filterMap Item.component? = match s.body with
      | .project _ => []
      | .aggregate components => components := by
  obtain ⟨filters, body⟩ := s
  cases body <;>
    simp [items, bodyItems, List.filterMap_map, Function.comp_def, Item.component?]

/-- The items of a stage make it up again. -/
theorem WellFormed.denotes (h : s.WellFormed) : Denotes s.items s := by
  have hsome := h.component
  have hfilters := s.filterMap_filter?_items
  have hfields := s.filterMap_field?_items
  have hcomponents := s.filterMap_component?_items
  obtain ⟨filters, body⟩ := s
  cases body with
  | project fields =>
    have hdenotes := Denotes.project hcomponents
    rwa [hfilters, hfields] at hdenotes
  | aggregate components =>
    have hne : (Stage.items ⟨filters, .aggregate components⟩).filterMap Item.component? ≠ [] := by
      rw [hcomponents]
      exact fun hnil ↦ hsome (congrArg Body.aggregate hnil)
    have hdenotes := Denotes.aggregate hne hfields
    rwa [hfilters, hcomponents] at hdenotes

end Stage

/-! ## Reading items -/

namespace Spec

variable {text : List Char} {kinds : List TokenKind} {n : Nat}

/-- The name of a field in canonical text. -/
def fieldName (n : Nat) : String := String.ofList (fieldChars n)

theorem isDigit_of_mem_decimal {c : Char} (h : c ∈ decimal n) : c.isDigit = true :=
  Nat.isDigit_of_mem_toDigits (by decide) (by decide) h

theorem fieldName_fieldName (h : n < 1 <<< 64) : FieldName (fieldName n) n :=
  ⟨decimal n, String.toList_ofList, Nat.toDigits_ne_nil, fun _ ↦ isDigit_of_mem_decimal,
    Nat.ofDigitChars_ten_toDigits, h⟩

theorem isName_fieldChars (n : Nat) : isName (fieldChars n) = true := by
  have hdigits : ∀ c ∈ decimal n, isNameChar c = true := fun c hc ↦ by
    rw [isNameChar, Char.isAlphanum, isDigit_of_mem_decimal hc, Bool.or_true, Bool.true_or]
  exact List.all_eq_true.2 (List.forall_mem_cons.2 ⟨rfl, hdigits⟩)

namespace Reads

theorem word {w : String} (hw : isName w.toList = true) (h : Reads text kinds)
    (hapart : Apart text) : Reads (w.toList ++ text) (.name w :: kinds) := by
  have hname := h.name hw hapart
  rwa [String.ofList_toList] at hname

theorem field (n : Nat) (h : Reads text kinds) (hapart : Apart text) :
    Reads (fieldChars n ++ text) (.name (fieldName n) :: kinds) :=
  h.name (isName_fieldChars n) hapart

/-- The end of an argument list. -/
theorem closing : Reads [')'] [.closeParen] := nil.closeParen

end Reads

theorem apart_openParen : Apart ('(' :: text) := .cons rfl

theorem apart_closeParen : Apart (')' :: text) := .cons rfl

/-- Fields behind the first. -/
theorem exists_reads_moreFields {fields : List Nat} (h : ∀ f ∈ n :: fields, f < 1 <<< 64) :
    ∃ kinds, DerivesMore kinds fields ∧
      Reads (joined [',', ' '] fieldChars (n :: fields) ++ [')'])
        (.name (fieldName n) :: (kinds ++ [.closeParen])) := by
  induction fields generalizing n with
  | nil => exact ⟨[], .nil, .field n .closing apart_closeParen⟩
  | cons m fields ih =>
    obtain ⟨kinds, hkinds, hreads⟩ := ih (List.forall_mem_cons.1 h).2
    refine ⟨.comma :: .name (fieldName m) :: kinds,
      .cons (fieldName_fieldName (h m (by simp))) hkinds, ?_⟩
    rw [joined_cons (List.cons_ne_nil _ _), List.append_assoc, List.append_assoc]
    exact .field n hreads.blank.comma (.cons rfl)

theorem exists_reads_component {c : Component} (h : c.WellFormed) :
    ∃ kinds, DerivesItem kinds (.component c) ∧ Reads c.chars kinds := by
  cases c with
  | key f =>
    refine ⟨_, .key (fieldName_fieldName h), ?_⟩
    change Reads ("key".toList ++ '(' :: (fieldChars f ++ [')'])) _
    exact .word rfl (.openParen (.field f .closing apart_closeParen)) apart_openParen
  | sum f =>
    refine ⟨_, .sum (fieldName_fieldName h), ?_⟩
    change Reads ("sum".toList ++ '(' :: (fieldChars f ++ [')'])) _
    exact .word rfl (.openParen (.field f .closing apart_closeParen)) apart_openParen
  | extremum goal fields =>
    obtain ⟨hne, hfields⟩ := h
    obtain ⟨n, fields, rfl⟩ := List.exists_cons_of_ne_nil hne
    obtain ⟨kinds, hkinds, hreads⟩ := exists_reads_moreFields hfields
    refine ⟨_, .extremum (hfields n List.mem_cons_self |> fieldName_fieldName) hkinds, ?_⟩
    have hname : isName goal.name.toList = true := by cases goal <;> rfl
    change Reads
      (goal.name.toList ++ ['('] ++ joined [',', ' '] fieldChars (n :: fields) ++ [')']) _
    rw [List.append_assoc, List.append_assoc]
    exact .word hname hreads.openParen apart_openParen
  | count =>
    refine ⟨_, .count, ?_⟩
    change Reads ("count".toList ++ []) _
    exact .word rfl .nil .nil
  | distinct f =>
    refine ⟨_, .distinct (fieldName_fieldName h), ?_⟩
    change Reads ("count".toList ++ '(' :: ("distinct".toList ++ ',' :: ' ' ::
      (fieldChars f ++ [')']))) _
    refine .word rfl (.openParen (.word rfl ?_ (.cons rfl))) apart_openParen
    exact (Reads.field f .closing apart_closeParen).blank.comma

theorem exists_reads_filter {f : Filter} (h : f.field < 1 <<< 64) :
    ∃ kinds, DerivesItem kinds (.filter f) ∧ Reads f.chars kinds := by
  refine ⟨_, .filter (fieldName_fieldName h), ?_⟩
  change Reads ("filter".toList ++ '(' :: (fieldChars f.field ++ ['~'] ++ written f.pattern.toList
    ++ [')'])) _
  rw [List.append_assoc, List.append_assoc]
  exact .word rfl (.openParen (.field f.field (.pattern f.pattern .nil) (.cons rfl)))
    apart_openParen

/-- Every item is read as itself. -/
theorem Item.exists_reads {i : Item} (h : i.WellFormed) :
    ∃ kinds, DerivesItem kinds i ∧ Reads i.chars kinds := by
  cases i with
  | filter f => exact exists_reads_filter h
  | field n =>
    refine ⟨_, .field (fieldName_fieldName h), ?_⟩
    change Reads (fieldChars n) _
    rw [← List.append_nil (fieldChars n)]
    exact .field n .nil .nil
  | component c => exact exists_reads_component h

theorem exists_reads_items {is : List Item} (h : ∀ i ∈ is, i.WellFormed) :
    ∃ kinds, DerivesItems kinds is ∧ Reads (joined [' '] Item.chars is) kinds := by
  induction is with
  | nil => exact ⟨[], .nil, .nil⟩
  | cons i is ih =>
    rw [List.forall_mem_cons] at h
    obtain ⟨kinds, hkinds, hreads⟩ := Item.exists_reads h.1
    obtain ⟨kinds', hkinds', hreads'⟩ := ih h.2
    refine ⟨kinds ++ kinds', .cons hkinds hkinds', ?_⟩
    cases is with
    | nil =>
      cases hkinds'
      rwa [List.append_nil]
    | cons j is =>
      rw [joined_cons (List.cons_ne_nil _ _), List.append_assoc]
      exact hreads.append hreads'.blank (.cons rfl)

/-! ## Reading stages and pipelines -/

theorem DerivesItems.ne_nil {i : Item} {is : List Item} (h : DerivesItems kinds (i :: is)) :
    kinds ≠ [] := by
  cases h with
  | cons hi _ =>
    obtain ⟨name, rest, rfl⟩ := hi.begins
    exact List.cons_ne_nil _ _

theorem exists_reads_stage {s : Stage} (h : s.WellFormed) :
    ∃ kinds, kinds ≠ [] ∧ DerivesStage kinds s.explicit ∧ Reads s.chars kinds := by
  have hexplicit := h.explicit
  obtain ⟨kinds, hkinds, hreads⟩ := exists_reads_items hexplicit.item
  rw [← hexplicit.chars_eq_joined s.not_isImplicit_explicit, s.chars_explicit] at hreads
  refine ⟨kinds, ?_, ⟨_, hkinds, hexplicit.denotes⟩, hreads⟩
  have hitems : s.explicit.items ≠ [] := List.append_ne_nil_of_right_ne_nil _
    (hexplicit.bodyItems_ne_nil s.not_isImplicit_explicit)
  obtain ⟨i, is, his⟩ := List.exists_cons_of_ne_nil hitems
  rw [his] at hkinds
  exact hkinds.ne_nil

theorem exists_reads_stages {s : Stage} {stages : List Stage}
    (h : ∀ s' ∈ s :: stages, s'.WellFormed) :
    ∃ kinds kinds', kinds ≠ [] ∧ DerivesStage kinds s.explicit ∧
      DerivesBehind kinds' (stages.map Stage.explicit) ∧
        Reads (joined " => ".toList Stage.chars (s :: stages)) (kinds ++ kinds') := by
  rw [List.forall_mem_cons] at h
  obtain ⟨kinds, hne, hkinds, hreads⟩ := exists_reads_stage h.1
  induction stages generalizing s kinds with
  | nil =>
    refine ⟨kinds, [], hne, hkinds, .nil, ?_⟩
    rwa [List.append_nil]
  | cons t stages ih =>
    have ht := List.forall_mem_cons.1 h.2
    obtain ⟨others, hothers, hothers', hreads'⟩ := exists_reads_stage ht.1
    obtain ⟨next, behind, hnext, hstage, hbehind, htext⟩ := ih ht others hothers hothers' hreads'
    refine ⟨kinds, .arrow :: (next ++ behind), hne, hkinds, .cons hnext hstage hbehind, ?_⟩
    rw [joined_cons (List.cons_ne_nil _ _), List.append_assoc]
    exact hreads.append htext.blank.arrow.blank (.cons rfl)

end Spec

namespace Pipeline

variable {p : Pipeline}

theorem parse_render_eq_explicit (h : p.WellFormed) : Spec.parse p.render = .ok p.explicit := by
  obtain ⟨stages⟩ := p
  obtain ⟨s, stages, rfl⟩ := List.exists_cons_of_ne_nil h.ne_nil
  obtain ⟨kinds, kinds', -, hkinds, hkinds', hreads⟩ := exists_reads_stages h.stage
  obtain ⟨ts, hts, htskinds⟩ := hreads.spells 0
  rw [Spec.parse, render, String.toList_ofList, chars, hts]
  dsimp only
  rw [pipelineOf_eq_ok_iff, htskinds]
  exact .intro hkinds hkinds'

theorem render_explicit (p : Pipeline) : p.explicit.render = p.render := by
  rw [render, render, chars, chars, explicit, joined_map]
  simp only [Stage.chars_explicit]

theorem explicit_eq_self (h : ∀ s ∈ p.stages, s.isImplicit = false) : p.explicit = p := by
  obtain ⟨stages⟩ := p
  rw [explicit, Pipeline.mk.injEq]
  rw [List.map_congr_left fun s hs ↦ Stage.explicit_of_not_isImplicit (h s hs), List.map_id']

/-- The canonical text of a pipeline is read as the pipeline, with the column `_0` in
implicit stages.  So it is its own canonical text, and a pipeline without implicit stages
comes back as it was. -/
theorem parse_render (h : p.WellFormed) :
    Spec.parse p.render = .ok p.explicit ∧ p.explicit.render = p.render ∧
      ((∀ s ∈ p.stages, s.isImplicit = false) → Spec.parse p.render = .ok p) := by
  refine ⟨parse_render_eq_explicit h, render_explicit p, fun hexplicit ↦ ?_⟩
  rw [parse_render_eq_explicit h, explicit_eq_self hexplicit]

/-- A pattern of quotes, arrows and white space in front of an implicit stage. -/
theorem parse_render_quoted :
    let p : Pipeline := ⟨[⟨[⟨3, "=> \"\\)\u2003"⟩, ⟨0, "(a\\))"⟩], .project []⟩,
      ⟨[⟨0, ""⟩], .aggregate [.extremum .lowest [2, 18446744073709551615], .count]⟩]⟩
    p.WellFormed ∧ Spec.parse p.render =
      .ok ⟨[⟨[⟨3, "=> \"\\)\u2003"⟩, ⟨0, "(a\\))"⟩], .project [0]⟩,
        ⟨[⟨0, ""⟩], .aggregate [.extremum .lowest [2, 18446744073709551615], .count]⟩]⟩ := by
  intro p
  have h : p.WellFormed := by
    refine ⟨List.cons_ne_nil _ _, ?_⟩
    rintro s (_ | ⟨_, _ | ⟨_, hs⟩⟩)
    · refine ⟨?_, Body.noConfusion⟩
      simp [Stage.items, Stage.bodyItems, Item.WellFormed]
    · refine ⟨?_, fun hbody ↦ ?_⟩
      · simp [Stage.items, Stage.bodyItems, Item.WellFormed, Component.WellFormed]
      · cases hbody
    · cases hs
  exact ⟨h, (parse_render h).1⟩

end Pipeline

end Rollup
