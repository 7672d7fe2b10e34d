import Rollup.Proofs.Spec.WellFormed
import Rollup.Proofs.Table.Aggregating
import Rollup.Proofs.Table.NormalForm

/-!
# What can be wrong with a pipeline

Two things can be wrong with a stage of a spec: it has several aggregates whose states are
too large together (`Stage.Oversized`), or one of its patterns is not one.  Of a stage that
has both faults the first is reported, and of several faulty stages in normal form the last
(`Stage.fault?`).

Nothing else can be wrong (`verdict_build`).  The faults of the model that remain are those
of pipelines that no spec denotes: a body must have columns and values
(`Body.Complete`), and only the last stage may be implicit, which the normal form sees to
(`explicit_handOn`).
-/

namespace Rollup

open Outcome

/-! ## Verdicts with one error at most -/

namespace Outcome

variable {ε α β : Type}

/-- Success, unless something is wrong. -/
def barring : Option ε → Except ε Unit
  | none => .ok ()
  | some e => .error e

theorem barring_eq_ok {fault? : Option ε} : barring fault? = .ok () ↔ fault? = none := by
  cases fault? <;> simp [barring]

theorem barring_eq_error {fault? : Option ε} {e : ε} :
    barring fault? = .error e ↔ fault? = some e := by
  cases fault? <;> simp [barring]

theorem exists_ok_of_verdict {x : Except ε α} (h : verdict x = barring none) : ∃ a, x = .ok a :=
  verdict_eq_ok.1 h

/-- What is wrong first is what is reported. -/
theorem verdict_bind {x : Except ε α} {g : α → Except ε β} {fault? fault'? : Option ε}
    (hx : verdict x = barring fault?) (hg : ∀ a, x = .ok a → verdict (g a) = barring fault'?) :
    verdict (x >>= g) = barring (fault?.or fault'?) := by
  cases fault? with
  | none =>
    obtain ⟨a, rfl⟩ := exists_ok_of_verdict hx
    exact hg a rfl
  | some e =>
    rw [verdict_eq_error.1 hx]
    rfl

end Outcome

/-! ## The faults of a stage -/

/-- The bytes that the state of a component takes in the buffer of a group. -/
def Component.stateSize : Component → Nat
  | .key _ => 0
  | .count | .distinct _ => 8
  | .sum _ | .extremum _ [] | .extremum _ [_] => 16
  | .extremum _ (_ :: _ :: _) => 32

/-- What is wrong with a filter, if anything is. -/
def Filter.fault? (engine : PatternEngine) (f : Filter) : Option Error :=
  match engine f.pattern with
  | .ok _ => none
  | .error fault => some (.pattern fault)

/-- The components that need a state. -/
def Body.aggregates : Body → List Component
  | .project _ => []
  | .aggregate components => components.filter fun c ↦ c.key?.isNone

namespace Stage

/-- The bytes of all states of a group. -/
def stateSize (s : Stage) : Nat := (s.body.aggregates.map Component.stateSize).sum

/-- Whether there are several states and they are too large together. -/
def Oversized (s : Stage) : Prop := 2 ≤ s.body.aggregates.length ∧ 64 < s.stateSize

instance (s : Stage) : Decidable s.Oversized := inferInstanceAs (Decidable (_ ∧ _))

/-- What is reported to be wrong with a stage, if anything is. -/
def fault? (engine : PatternEngine) (s : Stage) : Option Error :=
  if s.Oversized then some (.tooMuchState s.stateSize)
  else s.filters.findSome? (Filter.fault? engine)

/-- Whether the states have room and the patterns are understood. -/
def Faultless (engine : PatternEngine) (s : Stage) : Prop :=
  ¬ s.Oversized ∧ ∀ f ∈ s.filters, ∃ accepts, engine f.pattern = .ok accepts

variable {engine : PatternEngine} {s : Stage}

theorem fault?_filter_eq_none {f : Filter} :
    f.fault? engine = none ↔ ∃ accepts, engine f.pattern = .ok accepts := by
  rw [Filter.fault?]
  cases engine f.pattern <;> simp

theorem fault?_eq_none : s.fault? engine = none ↔ s.Faultless engine := by
  rw [fault?, Faultless]
  split
  · rename_i hlarge
    exact iff_of_false (Option.some_ne_none _) fun h ↦ h.1 hlarge
  · rename_i hsmall
    rw [List.findSome?_eq_none_iff]
    simp only [fault?_filter_eq_none, hsmall, not_false_eq_true, true_and]

theorem fault?_eq_some {e : Error} (h : s.fault? engine = some e) :
    s.Oversized ∧ e = .tooMuchState s.stateSize ∨
      ¬ s.Oversized ∧ ∃ f ∈ s.filters, ∃ fault,
        engine f.pattern = .error fault ∧ e = .pattern fault := by
  rw [fault?] at h
  split at h
  · rename_i hlarge
    exact .inl ⟨hlarge, (Option.some.inj h).symm⟩
  · rename_i hsmall
    obtain ⟨f, hf, hfault⟩ := List.exists_of_findSome?_eq_some h
    refine .inr ⟨hsmall, f, hf, ?_⟩
    rw [Filter.fault?] at hfault
    split at hfault
    · cases hfault
    · rename_i fault hpattern
      exact ⟨fault, hpattern, (Option.some.inj hfault).symm⟩

end Stage

/-! ## Building a stage -/

theorem Table.verdict_withFilters (engine : PatternEngine) (filters : List Filter) (inner : Table) :
    verdict (withFilters engine filters inner) =
      barring (filters.findSome? (Filter.fault? engine)) := by
  have hcompiled : (match filters.mapM fun f ↦ (engine f.pattern).map (FieldTest.mk f.field) with
      | .ok _ => none
      | .error fault => some (Error.pattern fault)) = filters.findSome? (Filter.fault? engine) := by
    induction filters with
    | nil => rfl
    | cons f filters ih =>
      rw [List.mapM_cons, List.findSome?_cons, Filter.fault?, ← ih]
      cases engine f.pattern with
      | error fault => rfl
      | ok accepts =>
        cases filters.mapM fun f ↦ (engine f.pattern).map (FieldTest.mk f.field) <;> rfl
  rw [← hcompiled, withFilters]
  split
  · rename_i hempty
    rw [List.isEmpty_iff.1 hempty]
    rfl
  · cases filters.mapM fun f ↦ (engine f.pattern).map (FieldTest.mk f.field) <;> rfl

theorem Layout.slotFault?_slotSize (aggregate : Aggregate) :
    slotFault? aggregate.slotSize = none := by
  cases aggregate <;> simp [slotFault?, slotSizes, maxAlign, Aggregate.slotSize]

/-- The only fault of several aggregates is that they are too large together. -/
theorem Bundle.verdict_packed (aggregates : List Aggregate) :
    verdict (packed aggregates) =
      barring (if 64 < Layout.totalSize (slotSizes aggregates) then
        some (.tooMuchState (Layout.totalSize (slotSizes aggregates))) else none) := by
  have hslots : ∀ slot ∈ slotSizes aggregates, Layout.slotFault? slot = none := by
    rw [slotSizes, List.forall_mem_map]
    exact fun aggregate _ ↦ Layout.slotFault?_slotSize aggregate
  by_cases hlarge : 64 < Layout.totalSize (slotSizes aggregates)
  · rw [if_pos hlarge, packed, Layout.of_eq_error_iff.2 (.inr ⟨hslots, hlarge, rfl⟩)]
    rfl
  · have hsmall := Nat.le_of_not_lt hlarge
    obtain ⟨capacity, hcapacity⟩ := Layout.exists_bucket hsmall
    have hlayout := Layout.of_eq_ok_iff.2 ⟨hslots, hsmall, rfl⟩
    rw [if_neg hlarge, packed_eq_ok_iff.2 ⟨_, capacity, hlayout, hcapacity, rfl⟩]
    rfl

/-- Whether the body has a column, and every least or greatest value a field. -/
def Body.Complete : Body → Prop
  | .project _ => True
  | .aggregate components => components ≠ [] ∧ ∀ c ∈ components, ∀ goal, c ≠ .extremum goal []

namespace Assignment

variable {components : List Component} {a : Assignment}

theorem exists_from (h : ∀ c ∈ components, ∀ goal, c ≠ .extremum goal []) (column : Nat) :
    ∃ a, Assignment.from column components = .ok a := by
  induction components generalizing column with
  | nil => exact ⟨_, rfl⟩
  | cons c rest ih =>
    rw [List.forall_mem_cons] at h
    have hc : ∃ aggregate?, c.aggregate? column = .ok aggregate? := by
      match c with
      | .key _ | .sum _ | .count | .distinct _ | .extremum _ [_] | .extremum _ (_ :: _ :: _) =>
        exact ⟨_, rfl⟩
      | .extremum goal [] => exact absurd rfl (h.1 goal)
    obtain ⟨aggregate?, haggregate⟩ := hc
    obtain ⟨behind, hbehind⟩ := ih h.2 (column + c.width)
    rw [Assignment.from, haggregate, hbehind]
    exact ⟨_, rfl⟩

/-- The aggregates need the places that their components need. -/
theorem sizes_of_from {column : Nat} (h : Assignment.from column components = .ok a) :
    (Bundle.slotSizes a.aggregates).map SlotSize.size =
      ((Body.aggregate components).aggregates).map Component.stateSize := by
  induction components generalizing column a with
  | nil =>
    cases h
    rfl
  | cons c rest ih =>
    obtain ⟨behind, hbehind, ⟨field, rfl, rfl⟩ | ⟨aggregate, haggregate, rfl⟩⟩ := from_cons_eq_ok h
    · have hrest := ih hbehind
      exact hrest
    · have hcons : aggregate.slotSize.size ::
            (Bundle.slotSizes behind.aggregates).map SlotSize.size =
          c.stateSize :: ((Body.aggregate rest).aggregates).map Component.stateSize := by
        rw [ih hbehind]
        congr 1
        match c, haggregate with
        | .sum _, h | .count, h | .distinct _, h | .extremum _ [_], h
        | .extremum _ (_ :: _ :: _), h =>
          cases h
          rfl
      match c, haggregate with
      | .sum _, _ | .count, _ | .distinct _, _ | .extremum _ [_], _
      | .extremum _ (_ :: _ :: _), _ => exact hcons

/-- What is no key is an aggregate. -/
theorem keys_ne_nil {column : Nat} (h : Assignment.from column components = .ok a)
    (hne : components ≠ []) (hnone : a.aggregates = []) : a.keys ≠ [] := by
  cases components with
  | nil => exact absurd rfl hne
  | cons c rest =>
    obtain ⟨behind, -, ⟨field, rfl, rfl⟩ | ⟨aggregate, -, rfl⟩⟩ := from_cons_eq_ok h
    · exact List.cons_ne_nil _ _
    · cases hnone

theorem width_ne_zero (h : Assignment.from 0 components = .ok a) (hne : components ≠ []) :
    a.width ≠ 0 := by
  cases components with
  | nil => exact absurd rfl hne
  | cons c rest =>
    have hpos := c.width_pos
    rw [width_eq h, Component.totalWidth, List.map_cons, List.foldr_cons]
    omega

end Assignment

/-- However many aggregates there are, only the states of several can be too large. -/
theorem Table.verdict_aggregating {keys : List Key} {aggregates : List Aggregate}
    (h : aggregates = [] → keys ≠ []) (order : GroupOrder) (width : Nat) (next : Table) :
    verdict (aggregating keys aggregates order width next) =
      barring (if 2 ≤ aggregates.length ∧ 64 < Layout.totalSize (Bundle.slotSizes aggregates) then
        some (.tooMuchState (Layout.totalSize (Bundle.slotSizes aggregates))) else none) := by
  match aggregates with
  | [] =>
    rw [aggregating, distinct, if_neg fun hkeys ↦ h rfl (List.isEmpty_iff.1 hkeys)]
    rfl
  | [aggregate] => rfl
  | first :: second :: rest =>
    have htwo : 2 ≤ (first :: second :: rest).length := Nat.le_add_left 2 _
    simp only [htwo, true_and]
    have hpacked : aggregating keys (first :: second :: rest) order width next =
        packed keys (first :: second :: rest) order width next := rfl
    rw [hpacked, ← Bundle.verdict_packed]
    exact verdict_map _ _

namespace Stage

variable {engine : PatternEngine} {order : GroupOrder} {next : Table} {s : Stage}

theorem verdict_buildBody (h : s.body.Complete) (hnext : s.isImplicit → ∃ out, next = .writer out) :
    verdict (buildBody s.body order next) =
      barring (if s.Oversized then some (.tooMuchState s.stateSize) else none) := by
  obtain ⟨filters, body⟩ := s
  cases body with
  | project fields =>
    cases fields with
    | nil =>
      obtain ⟨out, rfl⟩ := hnext rfl
      rfl
    | cons field fields => rfl
  | aggregate components =>
    obtain ⟨hne, hvalues⟩ := h
    obtain ⟨a, ha⟩ := Assignment.exists_from hvalues 0
    have hsizes := Assignment.sizes_of_from ha
    have hlength := congrArg List.length hsizes
    rw [List.length_map, List.length_map, Bundle.slotSizes, List.length_map] at hlength
    have htotal : Layout.totalSize (Bundle.slotSizes a.aggregates) =
        stateSize ⟨filters, .aggregate components⟩ := congrArg List.sum hsizes
    have haggregating :=
      Table.verdict_aggregating (Assignment.keys_ne_nil ha hne) order a.width next
    rw [htotal, hlength] at haggregating
    rw [buildBody, ha, ok_bind, if_neg (Assignment.width_ne_zero ha hne)]
    exact (verdict_map _ _).trans haggregating

theorem verdict_build (h : s.body.Complete) (hnext : s.isImplicit → ∃ out, next = .writer out) :
    verdict (s.build engine order next) = barring (s.fault? engine) := by
  have hfault : s.fault? engine =
      (if s.Oversized then some (.tooMuchState s.stateSize) else none).or
        (s.filters.findSome? (Filter.fault? engine)) := by
    rw [fault?]
    split <;> rfl
  rw [build, hfault]
  exact verdict_bind (verdict_buildBody h hnext) fun built _ ↦
    (verdict_map _ _).trans (Table.verdict_withFilters engine s.filters built.1)

end Stage

/-! ## Stages in normal form -/

theorem Stage.faultless_prepend {engine : PatternEngine} (pending : List Filter) (s : Stage) :
    Faultless engine { s with filters := pending ++ s.filters } ↔
      (∀ f ∈ pending, ∃ accepts, engine f.pattern = .ok accepts) ∧ s.Faultless engine := by
  rw [Faultless, List.forall_mem_append]
  exact and_left_comm

namespace Pipeline

variable {engine : PatternEngine} {orders : Nat → GroupOrder} {stages : List Stage}

/-- Of several faulty stages the last is reported. -/
theorem verdict_buildStages (hcomplete : ∀ s ∈ stages, s.body.Complete)
    (hexplicit : ∀ s ∈ stages.dropLast, s.isImplicit = false) (out : Writer) (rank : Nat) :
    verdict (buildStages engine orders (.writer out) rank stages) =
      barring (stages.reverse.findSome? (Stage.fault? engine)) := by
  induction stages generalizing rank with
  | nil => rfl
  | cons s rest ih =>
    rw [List.forall_mem_cons] at hcomplete
    have hrest := ih hcomplete.2 (fun t ht ↦ hexplicit t ?_)
      (if s.isAggregating then rank + 1 else rank)
    · rw [buildStages, List.reverse_cons, List.findSome?_append]
      refine verdict_bind hrest fun built hbuilt ↦ ?_
      have hnext : s.isImplicit → ∃ out, built.1 = .writer out := by
        intro himplicit
        cases rest with
        | nil =>
          cases hbuilt
          exact ⟨out, rfl⟩
        | cons t rest =>
          cases himplicit.symm.trans (hexplicit s List.mem_cons_self)
      have hs : verdict (s.build engine (orders rank) built.1) = barring (s.fault? engine) :=
        Stage.verdict_build hcomplete.1 hnext
      rw [List.findSome?_singleton, ← hs]
      exact verdict_map _ _
    · cases rest with
      | nil => cases ht
      | cons t rest => exact List.mem_cons_of_mem s ht

/-- Handing filters on leaves no implicit stage before the end. -/
theorem explicit_handOn (pending : List Filter) (stages : List Stage) :
    ∀ s ∈ (handOn pending stages).dropLast, s.isImplicit = false := by
  fun_induction handOn pending stages with
  | case1 => exact List.forall_mem_nil _
  | case2 => exact List.forall_mem_nil _
  | case3 pending s next rest himplicit ih => exact ih
  | case4 pending s next rest hexplicit ih =>
    rw [List.dropLast_cons_of_ne_nil (handOn_ne_nil (List.cons_ne_nil next rest) [])]
    exact List.forall_mem_cons.2 ⟨eq_false_of_ne_true hexplicit, ih⟩

/-- Nor does it make new bodies. -/
theorem body_handOn {p : Body → Prop} {pending : List Filter} (h : ∀ s ∈ stages, p s.body) :
    ∀ s ∈ handOn pending stages, p s.body := by
  fun_induction handOn pending stages with
  | case1 => exact h
  | case2 pending last =>
    rw [List.forall_mem_singleton] at h ⊢
    exact h
  | case3 pending s next rest himplicit ih => exact ih (List.forall_mem_cons.1 h).2
  | case4 pending s next rest hexplicit ih =>
    rw [List.forall_mem_cons] at h ⊢
    exact ⟨h.1, ih h.2⟩

/-- Handing filters on neither makes nor mends a fault. -/
theorem faultless_handOn (hne : stages ≠ []) (pending : List Filter) :
    (∀ s ∈ handOn pending stages, s.Faultless engine) ↔
      (∀ f ∈ pending, ∃ accepts, engine f.pattern = .ok accepts) ∧
        ∀ s ∈ stages, s.Faultless engine := by
  fun_induction handOn pending stages with
  | case1 => exact absurd rfl hne
  | case2 pending last =>
    rw [List.forall_mem_singleton, List.forall_mem_singleton, Stage.faultless_prepend]
  | case3 pending s next rest himplicit ih =>
    have hsmall : ¬ s.Oversized := by
      rw [Stage.Oversized, Stage.body_of_isImplicit himplicit]
      exact fun h ↦ Nat.not_succ_le_zero _ h.1
    rw [ih (List.cons_ne_nil _ _), List.forall_mem_append, List.forall_mem_cons (a := s), and_assoc]
    simp only [Stage.Faultless, hsmall, not_false_eq_true, true_and]
  | case4 pending s next rest hexplicit ih =>
    rw [List.forall_mem_cons, List.forall_mem_cons (a := s), Stage.faultless_prepend,
      ih (List.cons_ne_nil _ _), and_assoc]
    simp only [List.not_mem_nil, false_implies, implies_true, true_and]

/-- The bodies that are read from a spec have columns and values. -/
theorem WellFormed.complete {p : Pipeline} (h : p.WellFormed) :
    ∀ s ∈ p.stages, s.body.Complete := by
  rintro ⟨filters, body⟩ hs
  cases body with
  | project fields => trivial
  | aggregate components =>
    have hstage := h.stage _ hs
    refine ⟨fun hnone ↦ hstage.component (congrArg Body.aggregate hnone), ?_⟩
    rintro c hc goal rfl
    exact (hstage.item (.component (.extremum goal []))
      (List.mem_append_right _ (List.mem_map_of_mem hc))).1 rfl

/-- A spec is built unless a stage of its normal form is faulty. -/
theorem verdict_build {text : String} {p : Pipeline} (h : Spec.parse text = .ok p) (out : Writer) :
    verdict (p.build engine orders out) =
      barring (p.normalize.stages.reverse.findSome? (Stage.fault? engine)) := by
  obtain ⟨first, rest, hstages, hidle⟩ := Spec.not_idle_of_parse h
  have hcomplete := (Spec.wellFormed_of_parse h).complete
  obtain ⟨stages⟩ := p
  obtain rfl : stages = first :: rest := hstages
  rw [build, normalize_eq hidle]
  exact (verdict_map _ _).trans
    (verdict_buildStages (body_handOn hcomplete) (explicit_handOn _ _) out 0)

/-- A spec that can be read can be built exactly if all its patterns are understood and no
stage has too much state.  Otherwise the last stage of the normal form that is faulty has
its fault reported, its size in front of its patterns. -/
theorem build_of_parse {text : String} {p : Pipeline} (h : Spec.parse text = .ok p) (out : Writer) :
    ((∃ built, p.build engine orders out = .ok built) ↔ ∀ s ∈ p.stages, s.Faultless engine) ∧
      ∀ e, p.build engine orders out = .error e →
        (∃ front s behind, p.normalize.stages = front ++ s :: behind ∧
          (∀ t ∈ behind, t.Faultless engine) ∧
          (s.Oversized ∧ e = .tooMuchState s.stateSize ∨
            ¬ s.Oversized ∧ ∃ f ∈ s.filters, ∃ fault,
              engine f.pattern = .error fault ∧ e = .pattern fault)) ∧
        ∀ d, e ≠ .defect d := by
  have hverdict : verdict (p.build engine orders out) =
      barring (p.normalize.stages.reverse.findSome? (Stage.fault? engine)) := verdict_build h out
  refine ⟨?_, fun e he ↦ ?_⟩
  · obtain ⟨first, rest, hstages, hidle⟩ := Spec.not_idle_of_parse h
    obtain ⟨stages⟩ := p
    obtain rfl : stages = first :: rest := hstages
    rw [← verdict_eq_ok, hverdict, barring_eq_ok, List.findSome?_eq_none_iff, normalize_eq hidle]
    simp only [List.mem_reverse, Stage.fault?_eq_none]
    rw [faultless_handOn (List.cons_ne_nil _ _)]
    simp only [List.not_mem_nil, false_implies, implies_true, true_and]
  · rw [verdict_eq_error.2 he, eq_comm, barring_eq_error, List.findSome?_eq_some_iff] at hverdict
    obtain ⟨behind, s, front, hsplit, hs, hbehind⟩ := hverdict
    refine ⟨⟨front.reverse, s, behind.reverse, ?_, fun t ht ↦ ?_, Stage.fault?_eq_some hs⟩, ?_⟩
    · rw [← List.reverse_reverse p.normalize.stages, hsplit, List.reverse_append,
        List.reverse_cons, List.append_assoc]
      rfl
    · exact Stage.fault?_eq_none.1 (hbehind t (List.mem_reverse.1 ht))
    · rcases Stage.fault?_eq_some hs with ⟨-, rfl⟩ | ⟨-, -, -, -, -, rfl⟩ <;>
        exact fun d ↦ Error.noConfusion

/-- Of a pattern that is not understood and a stage behind it that is too large, the
latter is reported. -/
theorem build_of_parse_last :
    let engine : PatternEngine := fun pattern ↦
      if pattern = "+" then .error .classEscape else .ok fun _ ↦ true
    let p : Pipeline := ⟨[⟨[⟨1, "+"⟩], .aggregate [.key 0]⟩,
      ⟨[], .aggregate [.extremum .lowest [0, 1], .extremum .highest [0, 1], .count]⟩]⟩
    let built := p.build engine (fun _ ↦ .sorted) (.new .reliable 32768)
    Spec.parse "f1~+ k0 => min(_0,_1) max(_0,_1) c" = .ok p ∧
      built = .error (.tooMuchState 72) ∧ (¬ ∃ made, built = .ok made) ∧
        ∃ front s behind, p.normalize.stages = front ++ s :: behind ∧ s.Oversized ∧
          s.stateSize = 72 := by
  intro engine p built
  have hparse : Spec.parse "f1~+ k0 => min(_0,_1) max(_0,_1) c" = .ok p := by decide +kernel
  have hbuilt : built = .error (.tooMuchState 72) := rfl
  obtain ⟨hiff, hfault⟩ :=
    @build_of_parse engine (fun _ ↦ .sorted) _ _ hparse (.new .reliable 32768)
  obtain ⟨⟨front, s, behind, hsplit, -, hs⟩, -⟩ := hfault _ hbuilt
  refine ⟨hparse, hbuilt, fun hmade ↦ ?_, front, s, behind, hsplit, ?_⟩
  · have hlast := hiff.1 hmade ⟨[], _⟩ (List.mem_cons_of_mem _ List.mem_cons_self)
    exact hlast.1 (by decide)
  · rcases hs with ⟨hlarge, heq⟩ | ⟨-, _, -, _, -, heq⟩
    · exact ⟨hlarge, (Error.tooMuchState.inj heq).symm⟩
    · cases heq

end Pipeline

end Rollup
