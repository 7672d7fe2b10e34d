import Rollup.Proofs.Spec.Derivation

/-!
# Pipelines that can be written

A pipeline can be written as a spec if it has a stage, no stage that aggregates nothing,
no least or greatest value of no field, and numbers of 64 bits (`Pipeline.WellFormed`).
All pipelines that are read from a spec are such (`wellFormed_of_parse`).

The conditions are mostly on single items, so a stage is taken apart into its items again,
the filters first (`Stage.items`).
-/

namespace Rollup

open Spec

def Component.WellFormed : Component → Prop
  | .key f | .sum f | .distinct f => f < 1 <<< 64
  | .extremum _ fields => fields ≠ [] ∧ ∀ f ∈ fields, f < 1 <<< 64
  | .count => True

def Spec.Item.WellFormed : Item → Prop
  | .filter f => f.field < 1 <<< 64
  | .field n => n < 1 <<< 64
  | .component c => c.WellFormed

namespace Stage

/-- The items of the body of a stage. -/
def bodyItems (s : Stage) : List Item :=
  match s.body with
  | .project fields => fields.map .field
  | .aggregate components => components.map .component

/-- The items of a stage, the filters first. -/
def items (s : Stage) : List Item := s.filters.map .filter ++ s.bodyItems

structure WellFormed (s : Stage) : Prop where
  item : ∀ i ∈ s.items, i.WellFormed
  component : s.body ≠ .aggregate []

end Stage

structure Pipeline.WellFormed (p : Pipeline) : Prop where
  ne_nil : p.stages ≠ []
  stage : ∀ s ∈ p.stages, s.WellFormed

namespace Spec

variable {text : List Char} {kinds : List TokenKind} {n : Nat}

theorem FieldName.lt {name : String} (h : FieldName name n) : n < 1 <<< 64 := by
  obtain ⟨digits, -, hdigits⟩ := h
  exact hdigits.lt

theorem DerivesMore.lt {ns : List Nat} (h : DerivesMore kinds ns) : ∀ n ∈ ns, n < 1 <<< 64 := by
  induction h with
  | nil => exact List.forall_mem_nil _
  | cons hname _ ih => exact List.forall_mem_cons.2 ⟨hname.lt, ih⟩

theorem Numerals.wellFormed {ns : List Nat} (h : Numerals text ns) (goal : Goal) :
    (Component.extremum goal ns).WellFormed := by
  obtain ⟨parts, -, hne, hparts⟩ := h
  refine ⟨?_, ?_⟩
  · rintro rfl
    exact hne (List.forall₂_nil_right_iff.1 hparts)
  · clear hne
    induction hparts with
    | nil => exact List.forall_mem_nil _
    | cons hdigits _ ih => exact List.forall_mem_cons.2 ⟨hdigits.lt, ih⟩

theorem ShortName.wellFormed {name : String} {c : Component} (h : ShortName name c) :
    c.WellFormed := by
  cases h with
  | count => trivial
  | key _ hdigits => exact hdigits.lt
  | sum _ hdigits => exact hdigits.lt
  | distinct _ hdigits => exact hdigits.lt
  | extremum _ hne hparts => exact Numerals.wellFormed ⟨_, rfl, hne, hparts⟩ _

theorem ShortFilterName.lt {name : String} (h : ShortFilterName name n) : n < 1 <<< 64 := by
  cases h with
  | first => exact (by decide : 0 < 1 <<< 64)
  | field _ hdigits => exact hdigits.lt

theorem DerivesItem.wellFormed {i : Item} (h : DerivesItem kinds i) : i.WellFormed := by
  cases h with
  | key hname => exact hname.lt
  | sum hname => exact hname.lt
  | extremum hname hmore =>
    exact ⟨List.cons_ne_nil _ _, List.forall_mem_cons.2 ⟨hname.lt, hmore.lt⟩⟩
  | count => trivial
  | distinct hname => exact hname.lt
  | filter hname => exact hname.lt
  | field hname => exact hname.lt
  | short hname => exact hname.wellFormed
  | shortFilter hname => exact hname.lt

theorem DerivesItems.wellFormed {is : List Item} (h : DerivesItems kinds is) :
    ∀ i ∈ is, i.WellFormed := by
  induction h with
  | nil => exact List.forall_mem_nil _
  | cons hi _ ih => exact List.forall_mem_cons.2 ⟨hi.wellFormed, ih⟩

/-- The items of a stage that some items make up are among these. -/
theorem Denotes.mem_of_mem_items {is : List Item} {s : Stage} (h : Denotes is s) {i : Item}
    (hi : i ∈ s.items) : i ∈ is := by
  have hfilter {f : Filter} (hf : f ∈ is.filterMap Item.filter?) : Item.filter f ∈ is := by
    obtain ⟨j, hj, heq⟩ := List.mem_filterMap.1 hf
    cases j <;> cases heq
    exact hj
  have hfield {n : Nat} (hn : n ∈ is.filterMap Item.field?) : Item.field n ∈ is := by
    obtain ⟨j, hj, heq⟩ := List.mem_filterMap.1 hn
    cases j <;> cases heq
    exact hj
  have hcomponent {c : Component} (hc : c ∈ is.filterMap Item.component?) :
      Item.component c ∈ is := by
    obtain ⟨j, hj, heq⟩ := List.mem_filterMap.1 hc
    cases j <;> cases heq
    exact hj
  cases h with
  | project =>
    rcases List.mem_append.1 hi with hi | hi
    · obtain ⟨f, hf, rfl⟩ := List.mem_map.1 hi
      exact hfilter hf
    · obtain ⟨n, hn, rfl⟩ := List.mem_map.1 hi
      exact hfield hn
  | aggregate =>
    rcases List.mem_append.1 hi with hi | hi
    · obtain ⟨f, hf, rfl⟩ := List.mem_map.1 hi
      exact hfilter hf
    · obtain ⟨c, hc, rfl⟩ := List.mem_map.1 hi
      exact hcomponent hc

theorem DerivesStage.wellFormed {s : Stage} (h : DerivesStage kinds s) : s.WellFormed := by
  obtain ⟨is, hkinds, hdenotes⟩ := h
  refine ⟨fun i hi ↦ hkinds.wellFormed i (hdenotes.mem_of_mem_items hi), ?_⟩
  cases hdenotes with
  | project => exact Body.noConfusion
  | aggregate hsome => exact fun heq ↦ hsome (Body.aggregate.inj heq)

theorem DerivesBehind.wellFormed {stages : List Stage} (h : DerivesBehind kinds stages) :
    ∀ s ∈ stages, s.WellFormed := by
  induction h with
  | nil => exact List.forall_mem_nil _
  | cons _ hs _ ih => exact List.forall_mem_cons.2 ⟨hs.wellFormed, ih⟩

theorem Derives.wellFormed {p : Pipeline} (h : Derives kinds p) : p.WellFormed := by
  cases h with
  | intro hfirst hbehind =>
    exact ⟨List.cons_ne_nil _ _, List.forall_mem_cons.2 ⟨hfirst.wellFormed, hbehind.wellFormed⟩⟩

theorem wellFormed_of_parse {text : String} {p : Pipeline} (h : parse text = .ok p) :
    p.WellFormed := by
  rw [parse] at h
  split at h
  · cases h
  · exact (pipelineOf_eq_ok_iff.1 h).wellFormed

end Spec

end Rollup
