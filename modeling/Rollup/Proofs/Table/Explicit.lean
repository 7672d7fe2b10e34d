import Mathlib.Data.List.Chain
import Rollup.Number.Standard
import Rollup.Proofs.Spec.Canonical
import Rollup.Proofs.Table.Build

/-!
# What the canonical text means

The canonical text of a pipeline is read as `Pipeline.explicit`: an implicit stage becomes
one that prints field 0.  At the end of a pipeline these are the same.  Before the end they
are not, since an implicit stage hands on whole records there, and an explicit one only
their first fields (`Record.first`).

The stages behind such a stage make no difference between a record and its first field if
the next one looks at no other field (`Pipeline.FirstBehindImplicit`).  Then the canonical
text means the same as the spec (`meaningFrom_explicit`).  Without this it may not.
-/

namespace Rollup

open Outcome

/-! ## The fields that a stage looks at -/

def Component.fields : Component → List Nat
  | .key f | .sum f | .distinct f => [f]
  | .extremum _ fields => fields
  | .count => []

def Body.fields : Body → List Nat
  | .project fields => fields
  | .aggregate components => components.flatMap Component.fields

def Stage.fields (s : Stage) : List Nat := s.filters.map Filter.field ++ s.body.fields

namespace Assignment

variable {c : Component} {components : List Component} {column : Nat} {a : Assignment}

theorem fields_of_aggregate {aggregate : Aggregate}
    (h : c.aggregate? column = .ok (some aggregate)) : aggregate.fields = c.fields := by
  match c, h with
  | .sum _, h | .count, h | .distinct _, h | .extremum _ [_], h =>
    cases h
    rfl
  | .extremum goal (field :: next :: rest), h =>
    cases h
    rw [Aggregate.fields, List.map_map, Component.fields]
    exact congrArg (field :: ·) (List.zipIdx_map_fst 0 (next :: rest))

/-- The keys and aggregates of a stage look at the fields of its components. -/
theorem fieldsOf_subset (h : Assignment.from column components = .ok a) :
    Grouping.fieldsOf a.keys a.aggregates ⊆ components.flatMap Component.fields := by
  induction components generalizing column a with
  | nil =>
    cases h
    exact List.Subset.refl _
  | cons c rest ih =>
    obtain ⟨behind, hbehind, hcase⟩ := from_cons_eq_ok h
    have hrest := ih hbehind
    rw [Grouping.fieldsOf, List.append_subset] at hrest
    rw [List.flatMap_cons, Grouping.fieldsOf, List.append_subset]
    rcases hcase with ⟨field, rfl, rfl⟩ | ⟨aggregate, haggregate, rfl⟩
    · exact ⟨List.cons_subset_cons _ hrest.1, List.subset_append_of_subset_right _ hrest.2⟩
    · refine ⟨List.subset_append_of_subset_right _ hrest.1, ?_⟩
      rw [List.flatMap_cons, fields_of_aggregate haggregate, List.append_subset]
      exact ⟨List.subset_append_left _ _, List.subset_append_of_subset_right _ hrest.2⟩

end Assignment

/-! ## Records and their first fields -/

namespace Record

/-- The record that a stage which prints field 0 makes of a record. -/
def first (record : Record) : Record := [record.field 0]

@[simp] theorem field_first (record : Record) : record.first.field 0 = record.field 0 := rfl

theorem passes_first {tests : List FieldTest} (h : ∀ test ∈ tests, test.field = 0)
    (record : Record) : record.first.passes tests = record.passes tests := by
  rw [Bool.eq_iff_iff, passes, passes, List.all_eq_true, List.all_eq_true]
  refine forall₂_congr fun test htest ↦ ?_
  rw [h test htest, field_first]

theorem filter_map_first {tests : List FieldTest} (h : ∀ test ∈ tests, test.field = 0)
    (records : List Record) :
    (records.map first).filter (passes tests) = (records.filter (passes tests)).map first := by
  rw [List.filter_map]
  congr 1
  exact List.filter_congr fun record _ ↦ passes_first h record

theorem agreeOn_first {fields : List Nat} (h : ∀ i ∈ fields, i = 0) (records : List Record) :
    List.Forall₂ (Row.AgreeOn fields) ((records.map first).map Row.ofFields)
      (records.map Row.ofFields) := by
  rw [List.map_map, List.forall₂_map_left_iff, List.forall₂_map_right_iff, List.forall₂_same]
  intro record _ i hi
  rw [h i hi, Function.comp_apply, Row.field_of_fields (Row.fields_ofFields _),
    Row.field_of_fields (Row.fields_ofFields _)]
  rfl

end Record

namespace Stage

open Record (first)

variable {engine : PatternEngine} {order : GroupOrder} {s : Stage} {filters : List Filter}

theorem fields_of_testsOf {tests : List FieldTest} (h : testsOf engine filters = .ok tests) :
    tests.map FieldTest.field = filters.map Filter.field := by
  induction filters generalizing tests with
  | nil =>
    cases h
    rfl
  | cons f filters ih =>
    obtain ⟨test, tests, htest, htests, rfl⟩ := mapM_cons_eq_ok.1 h
    rw [List.map_cons, List.map_cons, ih htests]
    congr 1
    split at htest
    · cases htest
      rfl
    · cases htest

theorem field_eq_zero_of_testsOf {tests : List FieldTest} (h : testsOf engine filters = .ok tests)
    (hzero : ∀ i ∈ filters.map Filter.field, i = 0) : ∀ test ∈ tests, test.field = 0 := by
  intro test htest
  refine hzero _ ?_
  rw [← fields_of_testsOf h]
  exact List.mem_map_of_mem htest

/-- Groups do not show whether they were given records or first fields if nothing else is
looked at. -/
theorem grouped_map_first [NumberReader] {components : List Component}
    (h : ∀ i ∈ components.flatMap Component.fields, i = 0) (records : List Record) :
    grouped components order (records.map first) = grouped components order records := by
  rw [grouped, grouped]
  cases hbuild : buildBody (.aggregate components) order (.recorder #[]) with
  | error e => rfl
  | ok built =>
    obtain ⟨table, notices⟩ := built
    obtain ⟨a, bundle, ha, hfresh, hsame, rfl, -⟩ := buildBody_eq_ok hbuild
    have hfields : Grouping.fieldsOf a.keys (Grouping.aggregatesOf bundle.slots) ⊆
        components.flatMap Component.fields := by
      have hsubset := Assignment.fieldsOf_subset ha
      rcases hsame with hslots | ⟨hslots, hnone⟩
      · rwa [hslots]
      · rw [hslots]
        rwa [hnone] at hsubset
    rw [ok_bind, ok_bind]
    dsimp only
    rw [Table.drain_grouped hfresh.sound
      (Record.agreeOn_first (fun i hi ↦ h i (hfields hi)) records)]

/-- Nor does any other stage, unless it hands on what it is given. -/
theorem meaning_map_first [NumberReader] {isLast : Bool} (h : ∀ i ∈ s.fields, i = 0)
    (hlast : isLast = true ∨ s.isImplicit = false) (records : List Record) :
    s.meaning engine order isLast (records.map first) = s.meaning engine order isLast records := by
  rw [fields, List.forall_mem_append] at h
  rw [meaning, meaning]
  cases htests : testsOf engine s.filters with
  | error e => rfl
  | ok tests =>
    have hzero := field_eq_zero_of_testsOf htests h.1
    rw [ok_bind, ok_bind, Record.filter_map_first hzero, bodyMeaning.eq_def, bodyMeaning.eq_def]
    have hbody := h.2
    split
    · rename_i hproject
      obtain rfl : isLast = true := hlast.resolve_right (by simp [isImplicit, hproject])
      simp only [if_true, List.map_map]
      rfl
    · rename_i fields _ hproject
      rw [hproject] at hbody
      rw [List.map_map]
      congr 1
      refine List.map_congr_left fun record _ ↦ List.map_congr_left fun i hi ↦ ?_
      rw [hbody i hi, Record.field_first]
    · rename_i components haggregate
      rw [haggregate] at hbody
      exact grouped_map_first hbody _

/-- An implicit stage before the end hands on first fields as first fields. -/
theorem meaning_map_first_of_isImplicit [NumberReader] (h : ∀ i ∈ s.fields, i = 0)
    (himplicit : s.isImplicit) (records : List Record) :
    s.meaning engine order false (records.map first) =
      (s.meaning engine order false records).map (List.map first) := by
  rw [fields, List.forall_mem_append] at h
  rw [meaning_of_isImplicit himplicit, meaning_of_isImplicit himplicit]
  cases htests : testsOf engine s.filters with
  | error e => rfl
  | ok tests =>
    have hzero := field_eq_zero_of_testsOf htests h.1
    rw [ok_bind, ok_bind, Record.filter_map_first hzero]
    rfl

/-! ## Implicit stages as explicit ones -/

theorem isAggregating_explicit (s : Stage) : s.explicit.isAggregating = s.isAggregating := by
  cases h : s.isImplicit with
  | true => rw [explicit_of_isImplicit h, isAggregating_of_isImplicit h]; rfl
  | false => rw [explicit_of_not_isImplicit h]

theorem meaning_explicit_last [NumberReader] (s : Stage) (records : List Record) :
    s.explicit.meaning engine order true records = s.meaning engine order true records := by
  cases h : s.isImplicit with
  | true =>
    rw [explicit_of_isImplicit h, meaning, meaning, body_of_isImplicit h]
    rfl
  | false => rw [explicit_of_not_isImplicit h]

/-- Before the end an implicit stage hands on records, and an explicit one their first
fields. -/
theorem meaning_explicit_of_isImplicit [NumberReader] (h : s.isImplicit) (records : List Record) :
    s.explicit.meaning engine order false records =
      (s.meaning engine order false records).map (List.map first) := by
  rw [explicit_of_isImplicit h, meaning_of_isImplicit h, meaning]
  cases testsOf engine s.filters with
  | error e => rfl
  | ok tests => rfl

end Stage

namespace Pipeline

open Record (first)

variable {engine : PatternEngine} {orders : Nat → GroupOrder} {s : Stage} {stages rest : List Stage}

/-- A stage directly behind an implicit one looks at no field but the first. -/
def FirstBehindImplicit (stages : List Stage) : Prop :=
  stages.IsChain fun s t ↦ s.isImplicit → ∀ i ∈ t.fields, i = 0

/-- Stages do not show whether they were given records or first fields, if the first of
them looks at nothing else, and so on behind implicit ones. -/
theorem meaningFrom_map_first [NumberReader] (h : FirstBehindImplicit (s :: rest))
    (hs : ∀ i ∈ s.fields, i = 0) (rank : Nat) (records : List Record) :
    meaningFrom engine orders rank (s :: rest) (records.map first) =
      meaningFrom engine orders rank (s :: rest) records := by
  induction rest generalizing s rank records with
  | nil =>
    rw [meaningFrom_cons, meaningFrom_cons, List.isEmpty_nil, Stage.meaning_map_first hs (.inl rfl)]
  | cons t rest ih =>
    rw [meaningFrom_cons, meaningFrom_cons, List.isEmpty_cons]
    cases himplicit : s.isImplicit with
    | true =>
      obtain ⟨ht, hrest⟩ := List.isChain_cons_cons.1 h
      rw [Stage.meaning_map_first_of_isImplicit hs himplicit]
      cases s.meaning engine (orders rank) false records with
      | error e => rfl
      | ok made => exact ih hrest (ht himplicit) _ made
    | false => rw [Stage.meaning_map_first hs (.inr himplicit)]

theorem meaningFrom_explicit [NumberReader] (h : FirstBehindImplicit stages) (rank : Nat)
    (records : List Record) : meaningFrom engine orders rank (stages.map Stage.explicit) records =
      meaningFrom engine orders rank stages records := by
  induction stages generalizing rank records with
  | nil => rfl
  | cons s rest ih =>
    rw [List.map_cons, meaningFrom_cons, meaningFrom_cons, Stage.isAggregating_explicit]
    cases rest with
    | nil =>
      rw [List.map_nil, List.isEmpty_nil, Stage.meaning_explicit_last]
    | cons t rest =>
      obtain ⟨ht, hrest⟩ := List.isChain_cons_cons.1 h
      rw [List.map_cons, List.isEmpty_cons, List.isEmpty_cons, ← List.map_cons]
      cases himplicit : s.isImplicit with
      | true =>
        rw [Stage.meaning_explicit_of_isImplicit himplicit]
        cases s.meaning engine (orders rank) false records with
        | error e => rfl
        | ok made =>
          exact (ih hrest _ _).trans (meaningFrom_map_first hrest (ht himplicit) _ made)
      | false =>
        rw [Stage.explicit_of_not_isImplicit himplicit]
        exact bind_congr fun made ↦ ih hrest _ made

end Pipeline

/-! ## Building explicit stages -/

/-- Filters can be built in front of a table if their patterns are understood. -/
theorem Table.exists_withFilters {engine : PatternEngine} {filters : List Filter}
    {tests : List FieldTest} (h : Stage.testsOf engine filters = .ok tests) (next : Table) :
    ∃ table, withFilters engine filters next = .ok table := by
  have hcompiled :
      (filters.mapM fun f ↦ (engine f.pattern).map (FieldTest.mk f.field)) = .ok tests := by
    induction filters generalizing tests with
    | nil =>
      cases h
      rfl
    | cons f filters ih =>
      obtain ⟨test, tests, htest, htests, rfl⟩ := mapM_cons_eq_ok.1 h
      refine mapM_cons_eq_ok.2 ⟨test, tests, ?_, ih htests, rfl⟩
      split at htest
      · rename_i accepts haccepts
        cases htest
        rw [haccepts]
        rfl
      · cases htest
  rw [withFilters]
  split
  · exact ⟨next, rfl⟩
  · rw [hcompiled]
    exact ⟨_, rfl⟩

namespace Stage

variable {engine : PatternEngine} {order : GroupOrder} {s : Stage} {next : Table}
  {built : Table × List Notice} {pending : List Filter}

theorem exists_build {tests : List FieldTest}
    (hbody : buildBody s.body order next = .ok built)
    (htests : testsOf engine s.filters = .ok tests) :
    ∃ built, s.build engine order next = .ok built := by
  obtain ⟨table, htable⟩ := Table.exists_withFilters htests built.1
  refine ⟨(table, built.2), ?_⟩
  rw [build, hbody, ok_bind]
  dsimp only
  rw [htable]
  rfl

theorem exists_tests_of_build (h : s.build engine order next = .ok built) :
    ∃ tests, testsOf engine s.filters = .ok tests := by
  obtain ⟨⟨body, others⟩, -, h⟩ := bind_eq_ok.1 h
  obtain ⟨filtered, hfiltered, -⟩ := bind_eq_ok.1 h
  rcases Table.withFilters_eq_ok hfiltered with ⟨hnone, -⟩ | ⟨tests, htests, -⟩
  · rw [hnone]
    exact ⟨[], testsOf_nil⟩
  · exact ⟨tests, htests⟩

/-- A body that can be built in front of some table can be built in front of any and for any
order of groups, if it has columns of its own. -/
theorem exists_buildBody {body : Body} (h : buildBody body order next = .ok built)
    (hbody : body ≠ .project []) (order' : GroupOrder) (next' : Table) :
    ∃ built, buildBody body order' next' = .ok built := by
  cases body with
  | project fields =>
    cases fields with
    | nil => exact absurd rfl hbody
    | cons field fields => exact ⟨_, rfl⟩
  | aggregate components =>
    obtain ⟨a, bundle, -, -, -, -, hall⟩ := buildBody_eq_ok h
    exact ⟨_, hall order' next'⟩

theorem exists_tests_of_append {filters : List Filter} {tests : List FieldTest}
    (h : testsOf engine (pending ++ filters) = .ok tests) :
    (∃ tests, testsOf engine pending = .ok tests) ∧
      ∃ tests, testsOf engine filters = .ok tests := by
  rw [testsOf_append] at h
  obtain ⟨front, hfront, h⟩ := bind_eq_ok.1 h
  obtain ⟨behind, hbehind, -⟩ := bind_eq_ok.1 h
  exact ⟨⟨front, hfront⟩, behind, hbehind⟩

/-- If a stage can be built behind the filters that were handed on to it, then these can be
built, and so can the stage with columns of its own. -/
theorem exists_build_explicit
    (h : build engine order { s with filters := pending ++ s.filters } next = .ok built)
    (next' : Table) :
    (∃ tests, testsOf engine pending = .ok tests) ∧
      ∃ built, s.explicit.build engine order next' = .ok built := by
  obtain ⟨tests, htests⟩ := exists_tests_of_build h
  obtain ⟨hpending, tests', htests'⟩ := exists_tests_of_append htests
  refine ⟨hpending, ?_⟩
  obtain ⟨⟨body, others⟩, hbody, -⟩ := bind_eq_ok.1 h
  cases himplicit : s.isImplicit with
  | true =>
    rw [explicit_of_isImplicit himplicit]
    exact exists_build rfl htests'
  | false =>
    obtain ⟨built', hbuilt'⟩ := exists_buildBody hbody (of_decide_eq_false himplicit) order next'
    rw [explicit_of_not_isImplicit himplicit]
    exact exists_build hbuilt' htests'

end Stage

namespace Pipeline

variable {engine : PatternEngine} {orders : Nat → GroupOrder} {stages : List Stage}
  {built : Table × List Notice} {last : Table} {pending : List Filter} {rank : Nat}

/-- Stages can be built if those behind the first can, and the first in front of them. -/
theorem exists_buildStages_cons {s : Stage}
    (hrest : ∃ built, buildStages engine orders last
      (if s.isAggregating then rank + 1 else rank) stages = .ok built)
    (hs : ∀ next behind, buildStages engine orders last
      (if s.isAggregating then rank + 1 else rank) stages = .ok (next, behind) →
        ∃ built, s.build engine (orders rank) next = .ok built) :
    ∃ built, buildStages engine orders last rank (s :: stages) = .ok built := by
  obtain ⟨⟨next, behind⟩, hnext⟩ := hrest
  obtain ⟨⟨table, notices⟩, htable⟩ := hs next behind hnext
  refine ⟨(table, behind ++ notices), ?_⟩
  rw [buildStages, hnext, ok_bind]
  dsimp only
  rw [htable]
  rfl

/-- If stages can be built after implicit ones have handed their filters on, then the explicit
stages can be built. -/
theorem exists_buildStages_explicit (hne : stages ≠ [])
    (h : buildStages engine orders last rank (handOn pending stages) = .ok built) :
    (∃ tests, Stage.testsOf engine pending = .ok tests) ∧
      ∃ built, buildStages engine orders last rank (stages.map Stage.explicit) = .ok built := by
  fun_induction handOn pending stages generalizing rank built with
  | case1 => exact absurd rfl hne
  | case2 pending s =>
    obtain ⟨⟨next, behind⟩, -, h⟩ := bind_eq_ok.1 h
    obtain ⟨⟨table, notices⟩, htable, -⟩ := bind_eq_ok.1 h
    refine ⟨(Stage.exists_build_explicit htable next).1, ?_⟩
    exact exists_buildStages_cons ⟨_, rfl⟩ fun next' _ _ ↦
      (Stage.exists_build_explicit htable next').2
  | case3 pending s next rest himplicit ih =>
    obtain ⟨⟨tests, htests⟩, hrest⟩ := ih (List.cons_ne_nil _ _) h
    obtain ⟨hpending, tests', htests'⟩ := Stage.exists_tests_of_append htests
    refine ⟨hpending, exists_buildStages_cons ?_ fun next' _ _ ↦ ?_⟩
    · rw [Stage.isAggregating_explicit, Stage.isAggregating_of_isImplicit himplicit]
      exact hrest
    · rw [Stage.explicit_of_isImplicit himplicit]
      exact Stage.exists_build rfl htests'
  | case4 pending s next rest himplicit ih =>
    obtain ⟨⟨table, behind⟩, hbehind, h⟩ := bind_eq_ok.1 h
    obtain ⟨⟨table', notices⟩, htable', -⟩ := bind_eq_ok.1 h
    refine ⟨(Stage.exists_build_explicit htable' table).1, exists_buildStages_cons ?_
      fun next' _ _ ↦ (Stage.exists_build_explicit htable' next').2⟩
    rw [Stage.isAggregating_explicit]
    exact (ih (List.cons_ne_nil _ _) hbehind).2

/-! ## Building and running the canonical text -/

variable {p : Pipeline} {text : String}

/-- Explicit stages are in normal form. -/
theorem normalize_explicit (h : p.stages ≠ []) : p.explicit.normalize = p.explicit := by
  obtain ⟨stages⟩ := p
  obtain ⟨s, rest, rfl⟩ := List.exists_cons_of_ne_nil h
  have himplicit : ∀ t ∈ (s :: rest).map Stage.explicit, t.isImplicit = false := by
    intro t ht
    obtain ⟨t, -, rfl⟩ := List.mem_map.1 ht
    exact t.not_isImplicit_explicit
  have hidle : ∀ t ∈ rest.map Stage.explicit, isIdle t = false := fun t ht ↦
    not_idle_of_not_isImplicit (ne_true_of_eq_false (himplicit t (List.mem_cons_of_mem _ ht)))
  rw [explicit, List.map_cons, normalize_eq hidle, ← List.map_cons,
    handOn_eq_self fun t ht ↦ himplicit t ((List.dropLast_sublist _).mem ht)]

theorem exists_build_explicit {out : Writer} (hparse : Spec.parse text = .ok p)
    (hbuild : p.build engine orders out = .ok built) :
    ∃ built, p.explicit.build engine orders out = .ok built := by
  obtain ⟨first, rest, hstages, hidle⟩ := Spec.not_idle_of_parse hparse
  obtain ⟨stages⟩ := p
  obtain rfl : stages = first :: rest := hstages
  obtain ⟨⟨table, notices⟩, htable, -⟩ := bind_eq_ok.1 hbuild
  rw [normalize_eq hidle] at htable
  obtain ⟨-, ⟨table', notices'⟩, htable'⟩ :=
    exists_buildStages_explicit (List.cons_ne_nil _ _) htable
  refine ⟨(table', .compiling (explicit ⟨first :: rest⟩) :: notices'), ?_⟩
  rw [build, normalize_explicit (List.cons_ne_nil _ _)]
  rw [explicit, htable']
  rfl

/-- The canonical text of a spec whose tables can be built is read and built, too.  Where
stages behind implicit ones look at first fields only, its tables write the same, on a sink
that never fails, or end with the same error, for all lines of input and in whatever order
groups are rendered. -/
theorem output_render [NumberReader] {behaviour : SinkBehaviour} {threshold : Nat} {table : Table}
    {notices : List Notice} (hparse : Spec.parse text = .ok p)
    (hbuild : p.build engine orders (.new behaviour threshold) = .ok (table, notices)) :
    ∃ q table' notices', Spec.parse p.render = .ok q ∧
      q.build engine orders (.new behaviour threshold) = .ok (table', notices') ∧
        (behaviour.NeverFails → FirstBehindImplicit p.stages → ∀ lines : List Bytes,
          Table.output (table'.drain (lines.map Row.ofLine)) =
            Table.output (table.drain (lines.map Row.ofLine))) := by
  have hread : Spec.parse p.render = .ok p.explicit :=
    parse_render_eq_explicit (Spec.wellFormed_of_parse hparse)
  obtain ⟨⟨table', notices'⟩, hbuild'⟩ := exists_build_explicit hparse hbuild
  refine ⟨p.explicit, table', notices', hread, hbuild', fun hsink hfirst lines ↦ ?_⟩
  rw [output_eq_normalize hbuild hsink, output_eq_normalize hbuild' hsink,
    meaning_normalize hparse, meaning_normalize hread, meaning, meaning]
  simp only [explicit, meaningFrom_explicit hfirst]

open Standard

/-- Groups by field 0 behind a filter. -/
theorem output_render_groups :
    let engine : PatternEngine :=
      fun pattern ↦ .ok fun value ↦ pattern.toList.all fun c ↦ value.contains c.toNat.toUInt8
    let p : Pipeline := ⟨[⟨[⟨1, "A"⟩], .project []⟩, ⟨[], .aggregate [.key 0, .count]⟩]⟩
    let lines : List Bytes := [[120, 32, 65], [121, 32, 66], [120, 32, 65]]
    Spec.parse "f1~A => k0 c" = .ok p ∧ ∃ table notices q table' notices',
      p.build engine (fun _ ↦ .sorted) (.new .reliable 32768) = .ok (table, notices) ∧
        Spec.parse p.render = .ok q ∧
          q.build engine (fun _ ↦ .sorted) (.new .reliable 32768) = .ok (table', notices') ∧
            Table.output (table'.drain (lines.map Row.ofLine)) =
              Table.output (table.drain (lines.map Row.ofLine)) := by
  intro engine p lines
  have hparse : Spec.parse "f1~A => k0 c" = .ok p := by decide +kernel
  have hbuild : ∃ table notices, p.build engine (fun _ ↦ .sorted) (.new .reliable 32768) =
      .ok (table, notices) := ⟨_, _, rfl⟩
  have hfirst : FirstBehindImplicit p.stages := by
    refine List.isChain_cons_cons.2 ⟨fun _ ↦ ?_, .singleton _⟩
    decide
  obtain ⟨table, notices, htable⟩ := hbuild
  obtain ⟨q, table', notices', hread, htable', hsame⟩ := output_render hparse htable
  exact ⟨hparse, table, notices, q, table', notices', htable, hread, htable',
    hsame SinkBehaviour.neverFails_reliable hfirst lines⟩

/-- A stage behind an implicit one prints field 1, of which the canonical text has lost sight. -/
theorem output_render_differs :
    let engine : PatternEngine :=
      fun pattern ↦ .ok fun value ↦ pattern.toList.all fun c ↦ value.contains c.toNat.toUInt8
    let p : Pipeline := ⟨[⟨[⟨0, "A"⟩], .project []⟩, ⟨[], .project [1]⟩]⟩
    let lines : List Bytes := [[65, 32, 120]]
    Spec.parse "f~A => _1" = .ok p ∧ ∃ q table notices table' notices',
      Spec.parse p.render = .ok q ∧
        p.build engine (fun _ ↦ .sorted) (.new .reliable 32768) = .ok (table, notices) ∧
          q.build engine (fun _ ↦ .sorted) (.new .reliable 32768) = .ok (table', notices') ∧
            Table.output (table.drain (lines.map Row.ofLine)) = .ok (some [120, 10]) ∧
              Table.output (table'.drain (lines.map Row.ofLine)) = .ok (some [10]) := by
  intro engine p lines
  have hparse : Spec.parse "f~A => _1" = .ok p := by decide +kernel
  have hread : Spec.parse p.render = .ok p.explicit :=
    parse_render_eq_explicit (Spec.wellFormed_of_parse hparse)
  have hbuild : ∃ table notices, p.build engine (fun _ ↦ .sorted) (.new .reliable 32768) =
      .ok (table, notices) := ⟨_, _, rfl⟩
  obtain ⟨table, notices, htable⟩ := hbuild
  obtain ⟨⟨table', notices'⟩, htable'⟩ := exists_build_explicit hparse htable
  have hmeaning : p.meaning engine (fun _ ↦ .sorted) lines = .ok [120, 10] := by decide +kernel
  have hmeaning' : p.explicit.meaning engine (fun _ ↦ .sorted) lines = .ok [10] := by
    decide +kernel
  refine ⟨hparse, p.explicit, table, notices, table', notices', hread, htable, htable', ?_, ?_⟩
  · rw [output_eq_normalize htable SinkBehaviour.neverFails_reliable, meaning_normalize hparse,
      hmeaning]
    rfl
  · rw [output_eq_normalize htable' SinkBehaviour.neverFails_reliable, meaning_normalize hread,
      hmeaning']
    rfl

end Pipeline

end Rollup
