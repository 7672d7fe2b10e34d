import Mathlib.Data.List.Forall2
import Rollup.Number.Standard
import Rollup.Proofs.Processor
import Rollup.Proofs.Table.Explicit
import Rollup.Proofs.Table.Faults
import Rollup.Proofs.Table.Intake

/-!
# The order of rows and of groups is not seen in the lines

Groups are rendered in an order that nothing promises, and what comes out of one stage goes
into the next.  It can only be seen there where the order of rows matters: where fields of a
best row are printed, and where doubles are added or compared.

Without these, records in another order lead to lines in another order, and so from stage to
stage:

| Of | In |
|---|---|
| an aggregate, for the rows of a group | `Aggregate.Prints.congr_perm` |
| the lines of all groups | `Grouping.Renders.perm` |
| a stage of groups | `Stage.grouped_perm` |
| any stage | `Stage.meaning_perm` |
| all stages | `Pipeline.meaningFrom_perm` |

That the stage takes in the records in the other order, too, is known from
`GroupStage.Admits`.  The lines of the output are then the same, as often as before
(`Pipeline.lines_perm`).
-/

namespace Rollup

open Outcome

open Grouping (members tuple Line Renders aggregatesOf)

/-- Two relations that lead from the same items to the same results lead from a list to the
same list. -/
theorem eq_of_forall₂ {α β : Type} {r s : α → β → Prop} {xs : List α} {ys zs : List β}
    (h : List.Forall₂ r xs ys) (h' : List.Forall₂ s xs zs)
    (hsame : ∀ x ∈ xs, ∀ y z, r x y → s x z → y = z) : ys = zs := by
  induction h generalizing zs with
  | nil =>
    cases h'
    rfl
  | cons hy _ ih =>
    rw [List.forall_mem_cons] at hsame
    obtain ⟨z, zs, hz, hzs, rfl⟩ := List.forall₂_cons_left_iff.1 h'
    rw [hsame.1 _ _ hy hz, ih hzs hsame.2]

/-! ## Lines of groups -/

namespace Grouping

variable {keys : List Key} {aggregates : List Aggregate} {width : Nat} {rows rows' : List Row}

theorem Line.congr_perm [NumberReader] {t line line' : List Bytes}
    (h : Line keys aggregates width rows t line) (h' : Line keys aggregates width rows' t line')
    (hexact : ∀ aggregate ∈ aggregates, aggregate.Exact (members keys t rows))
    (hperm : rows.Perm rows') : line = line' := by
  obtain ⟨shares, hshares, rfl⟩ := h
  obtain ⟨others, hothers, rfl⟩ := h'
  rw [eq_of_forall₂ hshares hothers fun aggregate haggregate entries others hprints hprints' ↦
    hprints.congr_perm hprints' (hexact aggregate haggregate) (hperm.filter _)]

/-- If the aggregates are exact, the same rows in another order have the same lines in
another order. -/
theorem Renders.perm [NumberReader] {lines lines' : List Record}
    (h : Renders keys aggregates width rows lines) (h' : Renders keys aggregates width rows' lines')
    (hexact : ∀ aggregate ∈ aggregates, ∀ t, aggregate.Exact (members keys t rows))
    (hperm : rows.Perm rows') : lines.Perm lines' := by
  obtain ⟨tuples, ts, htuples, hts, hlines⟩ := h
  obtain ⟨tuples', ts', htuples', hts', hlines'⟩ := h'
  obtain ⟨others, hothers, hsame⟩ := mapM_perm htuples hperm
  cases htuples'.symm.trans hothers
  have hall : ts.Perm ts' := (hts.trans hsame.dedup).trans hts'.symm
  obtain ⟨found, hfound, hfoundPerm⟩ := List.perm_comp_forall₂ hall hlines'
  rw [eq_of_forall₂ hlines hfound fun t _ line line' hline hline' ↦ hline.congr_perm hline'
    (fun aggregate haggregate ↦ hexact aggregate haggregate t) hperm]
  exact hfoundPerm

end Grouping

theorem Aggregate.Exact.carriesNothing [NumberReader] {aggregate : Aggregate} {rows : List Row}
    (h : aggregate.Exact rows) : aggregate.CarriesNothing := by
  cases aggregate with
  | bestRow => exact h
  | _ => trivial

/-! ## Integers of records -/

namespace Record

/-- The integer that a field spells. -/
def int? [NumberReader] (field : Nat) (record : Record) : Option Int :=
  match Numeric.read? (record.field field) with
  | some (.int i) => some i
  | _ => none

/-- The integers that a field of some records spells. -/
def ints [NumberReader] (field : Nat) (records : List Record) : List Int :=
  records.filterMap (int? field)

/-- The records with these values in these fields. -/
def having (fields : List Nat) (values : List Bytes) (records : List Record) : List Record :=
  records.filter fun record ↦ fields.map record.field = values

variable {field : Nat} {records : List Record}

theorem readings_ofFields [NumberReader] (h : ∀ record ∈ records, (record.int? field).isSome) :
    Aggregate.readings field (records.map Row.ofFields) = .ok ((ints field records).map .int) := by
  induction records with
  | nil => rfl
  | cons record records ih =>
    rw [List.forall_mem_cons] at h
    obtain ⟨i, hi⟩ := Option.isSome_iff_exists.1 h.1
    have hread : Aggregator.number (.ofFields record) field = .ok (.int i) := by
      rw [Aggregator.number, Row.field_of_fields (Row.fields_ofFields record)]
      rw [int?] at hi
      split at hi
      · rename_i j hj
        cases hi
        exact Numeric.read?_eq_some_iff.1 hj
      · cases hi
    rw [ints, List.filterMap_cons_some hi]
    exact mapM_cons_eq_ok.2 ⟨_, _, hread, ih h.2, rfl⟩

theorem tuple_ofFields (keys : List Key) (record : Record) :
    tuple keys (.ofFields record) = .ok ((keys.map Key.field).map record.field) := by
  induction keys with
  | nil => rfl
  | cons key keys ih =>
    exact mapM_cons_eq_ok.2
      ⟨_, _, Row.field_of_fields (Row.fields_ofFields record) key.field, ih, rfl⟩

theorem members_ofFields (keys : List Key) (t : List Bytes) (records : List Record) :
    members keys t (records.map Row.ofFields) =
      (having (keys.map Key.field) t records).map Row.ofFields := by
  rw [members, having, List.filter_map]
  congr 1
  refine List.filter_congr fun record _ ↦ ?_
  rw [Bool.eq_iff_iff, Function.comp_apply, Grouping.hasTuple_iff, tuple_ofFields,
    decide_eq_true_eq, Except.ok.injEq]

end Record

/-! ## Components -/

namespace Component

/-- The field that the component reads numbers from. -/
def number? : Component → Option Nat
  | .sum field => some field
  | .extremum _ (field :: _) => some field
  | _ => none

/-- The component prints no fields of the best row. -/
def CarriesNothing : Component → Prop
  | .extremum _ fields => fields.length ≤ 1
  | _ => True

/-- All numbers that the components read from the records are integers, and those that are
summed for a group are bounded. -/
structure ReadIntegers [NumberReader] (components : List Component) (records : List Record) :
    Prop where
  integers : ∀ c ∈ components, ∀ field ∈ c.number?, ∀ record ∈ records,
    (record.int? field).isSome
  bounded : ∀ field, .sum field ∈ components → ∀ values, Numeric.Bounded
    (Record.ints field (Record.having (components.filterMap key?) values records))

end Component

theorem Assignment.exists_component {components : List Component} {column : Nat} {a : Assignment}
    (h : Assignment.from column components = .ok a) {aggregate : Aggregate}
    (haggregate : aggregate ∈ a.aggregates) :
    ∃ c ∈ components, ∃ column', c.aggregate? column' = .ok (some aggregate) := by
  induction components generalizing column a with
  | nil =>
    cases h
    cases haggregate
  | cons c rest ih =>
    obtain ⟨behind, hbehind, ⟨field, -, rfl⟩ | ⟨first, hfirst, rfl⟩⟩ := from_cons_eq_ok h
    · obtain ⟨c', hc', hexists⟩ := ih hbehind haggregate
      exact ⟨c', List.mem_cons_of_mem _ hc', hexists⟩
    · rcases List.mem_cons.1 haggregate with rfl | hmem
      · exact ⟨c, List.mem_cons_self, column, hfirst⟩
      · obtain ⟨c', hc', hexists⟩ := ih hbehind hmem
        exact ⟨c', List.mem_cons_of_mem _ hc', hexists⟩

/-- For components that carry nothing and read integers, aggregates are exact. -/
theorem Component.ReadIntegers.exact [NumberReader] {components : List Component}
    {records : List Record} {a : Assignment} (h : ReadIntegers components records)
    (hplain : ∀ c ∈ components, c.CarriesNothing) (ha : Assignment.from 0 components = .ok a)
    {aggregate : Aggregate} (haggregate : aggregate ∈ a.aggregates) (t : List Bytes) :
    aggregate.Exact (members a.keys t (records.map Row.ofFields)) := by
  obtain ⟨c, hc, column, hcolumn⟩ := Assignment.exists_component ha haggregate
  have hints (field : Nat) (hfield : c.number? = some field) :
      Aggregate.readings field (members a.keys t (records.map Row.ofFields)) = .ok
        ((Record.ints field (Record.having (components.filterMap key?) t records)).map .int) := by
    rw [Record.members_ofFields, Assignment.keys_eq ha]
    exact Record.readings_ofFields fun record hrecord ↦
      h.integers c hc field hfield record (List.mem_filter.1 hrecord).1
  match c, hcolumn with
  | .count, hcolumn | .distinct field, hcolumn =>
    cases hcolumn
    trivial
  | .sum field, hcolumn =>
    cases hcolumn
    exact ⟨_, hints field rfl, h.bounded field hc t⟩
  | .extremum goal [field], hcolumn =>
    cases hcolumn
    exact ⟨_, hints field rfl⟩
  | .extremum goal (field :: next :: rest), hcolumn =>
    exact absurd (hplain _ hc) (by simp [CarriesNothing])

/-! ## Stages -/

/-- The items of a stage that aggregates. -/
def Body.components : Body → List Component
  | .project _ => []
  | .aggregate components => components

/-- The stage prints no fields of best rows. -/
def Stage.CarriesNothing (stage : Stage) : Prop :=
  ∀ c ∈ stage.body.components, c.CarriesNothing

/-- Of the records that its filters keep, the stage reads integers. -/
def Stage.ReadsIntegers [NumberReader] (engine : PatternEngine) (stage : Stage)
    (records : List Record) : Prop :=
  ∀ tests, testsOf engine stage.filters = .ok tests →
    Component.ReadIntegers stage.body.components (records.filter (Record.passes tests))

namespace Stage

open Table

variable {components : List Component} {order order' : GroupOrder} {records records' : List Record}
  {next table : Table} {notices : List Notice}

/-- Components that can be built are built, with any order of groups, as a table of groups
for the same bundle. -/
theorem exists_bundle (h : buildBody (.aggregate components) order next = .ok (table, notices)) :
    ∃ a bundle, Assignment.from 0 components = .ok a ∧ bundle.Fresh ∧ bundle.HasRoom ∧
      SameLines bundle a.aggregates ∧
      ∀ order' next', buildBody (.aggregate components) order' next' =
        .ok (grouping a.keys bundle order' a.width next', notices) := by
  obtain ⟨a, bundle, ha, hfresh, hsame, htable, hall⟩ := buildBody_eq_ok h
  refine ⟨a, bundle, ha, hfresh, ?_, hsame, hall⟩
  cases builtAs_of_buildBody h with
  | grouping hfrom hfresh' hroom hsame' =>
    have hbundle := (GroupStage.mk.inj (Table.grouped.inj htable).1).2.1
    exact hbundle ▸ hroom

variable [NumberReader]

section Grouped

variable {a : Assignment} {bundle : Bundle}

/-- Of records that its table takes in, a stage of groups makes the lines that the table
renders, unless there are neither keys nor records. -/
theorem grouped_of_taken (hsound : bundle.Sound)
    (hfits : Grouping.Fits a.keys (aggregatesOf bundle.slots) a.width)
    (hbuild : buildBody (.aggregate components) order (.recorder #[]) =
      .ok (grouping a.keys bundle order a.width (.recorder #[]), notices))
    (hrun : (Step.each GroupStage.take (records.map Row.ofFields)
      ⟨.new a.keys, bundle, 0, order⟩).outcome = .ok ()) :
    ∃ lines, Renders a.keys (aggregatesOf bundle.slots) a.width (records.map Row.ofFields) lines ∧
      grouped components order records =
        if a.keys = [] ∧ records = [] then .error .noData else .ok lines := by
  obtain ⟨lines, hrenders, hdrain⟩ := drain_grouping_of_taken hsound hfits hrun
  have hdone := hdrain (.recorder #[])
  simp only [List.map_eq_nil_iff] at hdone
  refine ⟨lines, hrenders, ?_⟩
  rw [grouped, hbuild, ok_bind]
  dsimp only
  by_cases hnone : a.keys = [] ∧ records = []
  · rw [if_pos hnone] at hdone ⊢
    rw [hdone]
  · rw [if_neg hnone] at hdone ⊢
    obtain ⟨stage, columns, hdone⟩ := hdone
    obtain ⟨hok, harrivals⟩ := arrivals_handOn lines
    rw [hdone, Step.map_outcome, hok]
    exact congrArg Except.ok harrivals

theorem taken_of_grouped {lines : List Record}
    (hbuild : buildBody (.aggregate components) order (.recorder #[]) =
      .ok (grouping a.keys bundle order a.width (.recorder #[]), notices))
    (h : grouped components order records = .ok lines) :
    (Step.each GroupStage.take (records.map Row.ofFields)
      ⟨.new a.keys, bundle, 0, order⟩).outcome = .ok () := by
  cases hrun : (Step.each GroupStage.take (records.map Row.ofFields)
      ⟨.new a.keys, bundle, 0, order⟩).outcome with
  | ok u => rfl
  | error e =>
    rw [grouped, hbuild, ok_bind] at h
    dsimp only at h
    rw [drain_grouping_of_refused hrun] at h
    cases h

end Grouped

/-- If a stage of groups makes lines of records, it makes the same lines of the records in
another order, and in another order of groups. -/
theorem grouped_perm {lines : List Record} (hplain : ∀ c ∈ components, c.CarriesNothing)
    (hints : Component.ReadIntegers components records)
    (h : grouped components order records = .ok lines) (hperm : records.Perm records')
    (order' : GroupOrder) :
    ∃ lines', grouped components order' records' = .ok lines' ∧ lines.Perm lines' := by
  obtain ⟨⟨table, notices⟩, hbuild, -⟩ := bind_eq_ok.1 h
  obtain ⟨a, bundle, ha, hfresh, hroom, hsame, hall⟩ := exists_bundle hbuild
  have hfits := hsame.fits (Assignment.fits_of_from ha)
  have hrows := hperm.map Row.ofFields
  have hexact : ∀ aggregate ∈ aggregatesOf bundle.slots, ∀ t,
      aggregate.Exact (members a.keys t (records.map Row.ofFields)) := by
    rcases hsame with hslots | ⟨hslots, -⟩ <;> rw [hslots]
    · exact fun aggregate haggregate t ↦ hints.exact hplain ha haggregate t
    · exact List.forall_mem_singleton.2 fun t ↦ trivial
  have hrun := taken_of_grouped (hall order _) h
  have hadmits := ((GroupStage.took_new hfresh hroom hfits order).run hrun).admits
    fun aggregate haggregate ↦ (hexact aggregate haggregate []).carriesNothing
  have hrun' := (GroupStage.took_new hfresh hroom hfits order').run_ok
    (hadmits.subperm hrows.symm.subperm)
  obtain ⟨made, hrenders, hmade⟩ := grouped_of_taken hfresh.sound hfits (hall order _) hrun
  obtain ⟨lines', hrenders', hmade'⟩ := grouped_of_taken hfresh.sound hfits (hall order' _) hrun'
  rw [h] at hmade
  split at hmade
  · cases hmade
  · rename_i hdata
    cases hmade
    refine ⟨lines', ?_, hrenders.perm hrenders' hexact hrows⟩
    rw [hmade', if_neg fun ⟨hkeys, hnone⟩ ↦ hdata ⟨hkeys, (hnone ▸ hperm).eq_nil⟩]

variable {engine : PatternEngine} {stage : Stage} {isLast : Bool} {made : List Record}

theorem bodyMeaning_perm {body : Body} (hplain : ∀ c ∈ body.components, c.CarriesNothing)
    (hints : Component.ReadIntegers body.components records)
    (h : bodyMeaning order isLast body records = .ok made) (hperm : records.Perm records')
    (order' : GroupOrder) :
    ∃ made', bodyMeaning order' isLast body records' = .ok made' ∧ made.Perm made' := by
  match body with
  | .project [] =>
    cases h
    refine ⟨_, rfl, ?_⟩
    split
    · exact hperm.map _
    · exact hperm
  | .project (field :: fields) =>
    cases h
    exact ⟨_, rfl, hperm.map _⟩
  | .aggregate components => exact grouped_perm hplain hints h hperm order'

/-- What a stage makes of records, it makes of the records in another order, in another
order. -/
theorem meaning_perm (hplain : stage.CarriesNothing) (hints : stage.ReadsIntegers engine records)
    (h : stage.meaning engine order isLast records = .ok made) (hperm : records.Perm records')
    (order' : GroupOrder) :
    ∃ made', stage.meaning engine order' isLast records' = .ok made' ∧ made.Perm made' := by
  obtain ⟨tests, htests, h⟩ := bind_eq_ok.1 h
  rw [meaning, htests, ok_bind]
  exact bodyMeaning_perm hplain (hints tests htests) h (hperm.filter _) order'

end Stage

/-! ## Lines of the output -/

namespace Lines

/-- A line feed ends what is in front of it. -/
theorem of_append (line data : Bytes) :
    Lines.of (line ++ 0x0A :: data) = Lines.of (line ++ [0x0A]) ++ Lines.of data := by
  obtain ⟨lines, rest, hline⟩ := exists_cuts line
  obtain ⟨lines', rest', hdata⟩ := exists_cuts data
  have hended : Cuts (line ++ [0x0A]) (lines ++ [rest]) [] :=
    hline.append ((Cuts.nil List.not_mem_nil).cons hline.unfinished)
  have hall : Cuts (line ++ 0x0A :: data) (lines ++ rest :: lines') rest' :=
    hline.append (hdata.cons hline.unfinished)
  rw [Lines.of, Lines.of, Lines.of, hended.cut_eq, hall.cut_eq, hdata.cut_eq]
  simp [ending]

/-- Records in another order are printed as the same lines in another order. -/
theorem of_printed_perm {records records' : List Record} (h : records.Perm records') :
    (Lines.of (Record.printed records)).Perm (Lines.of (Record.printed records')) := by
  have hlines (records : List Record) : Lines.of (Record.printed records) =
      records.flatMap fun record ↦ Lines.of (Writer.tabbed record ++ [0x0A]) := by
    induction records with
    | nil => rfl
    | cons record records ih =>
      rw [Record.printed, List.flatMap_cons, List.append_assoc, List.singleton_append, of_append]
      exact congrArg _ ih
  rw [hlines, hlines]
  exact h.flatMap_right _

end Lines

/-! ## Pipelines -/

namespace Pipeline

variable {engine : PatternEngine} {orders : Nat → GroupOrder} {stages : List Stage} {rank : Nat}
  {records records' made : List Record}

/-- Each of the stages reads integers from the records that reach it. -/
def ReadsIntegers [NumberReader] (engine : PatternEngine) (orders : Nat → GroupOrder) :
    (rank : Nat) → List Stage → List Record → Prop
  | _, [], _ => True
  | rank, stage :: rest, records => stage.ReadsIntegers engine records ∧
      ∀ made, stage.meaning engine (orders rank) rest.isEmpty records = .ok made →
        ReadsIntegers engine orders (if stage.isAggregating then rank + 1 else rank) rest made

theorem meaningFrom_perm [NumberReader] (hplain : ∀ s ∈ stages, s.CarriesNothing)
    (hints : ReadsIntegers engine orders rank stages records)
    (h : meaningFrom engine orders rank stages records = .ok made)
    (hperm : records.Perm records') (orders' : Nat → GroupOrder) :
    ∃ made', meaningFrom engine orders' rank stages records' = .ok made' ∧ made.Perm made' := by
  induction stages generalizing rank records records' with
  | nil =>
    cases h
    exact ⟨records', rfl, hperm⟩
  | cons stage rest ih =>
    rw [List.forall_mem_cons] at hplain
    rw [meaningFrom_cons] at h
    obtain ⟨first, hfirst, h⟩ := bind_eq_ok.1 h
    obtain ⟨first', hfirst', hsame⟩ :=
      Stage.meaning_perm hplain.1 hints.1 hfirst hperm (orders' rank)
    rw [meaningFrom_cons, hfirst', ok_bind]
    exact ih hplain.2 (hints.2 first hfirst) h hsame

/-- Stages that can be built can be built for any order of groups and any writer. -/
theorem exists_buildStages_writer [NumberReader] {out : Writer} {built : Table × List Notice}
    (h : buildStages engine orders (.writer out) rank stages = .ok built)
    (orders' : Nat → GroupOrder) (out' : Writer) :
    ∃ built', buildStages engine orders' (.writer out') rank stages = .ok built' := by
  induction stages generalizing rank built with
  | nil => exact ⟨_, rfl⟩
  | cons stage rest ih =>
    obtain ⟨⟨next, behind⟩, hnext, h⟩ := bind_eq_ok.1 h
    obtain ⟨⟨table, notices⟩, hbuilt, -⟩ := bind_eq_ok.1 h
    obtain ⟨tests, htests⟩ := Stage.exists_tests_of_build hbuilt
    refine exists_buildStages_cons (ih hnext) fun next' behind' hnext' ↦ ?_
    obtain ⟨body, hbody⟩ : ∃ body, Stage.buildBody stage.body (orders' rank) next' = .ok body := by
      cases himplicit : stage.isImplicit with
      | false =>
        obtain ⟨⟨body, others⟩, hbody, -⟩ := bind_eq_ok.1 hbuilt
        exact Stage.exists_buildBody hbody (of_decide_eq_false himplicit) _ next'
      | true =>
        obtain ⟨last, rfl, -⟩ := Stage.handsTo_passthrough himplicit hbuilt
        rw [Stage.body_of_isImplicit himplicit]
        cases rest with
        | cons => exact absurd rfl (ne_writer_of_buildStages hnext last)
        | nil =>
          cases hnext'
          exact ⟨_, rfl⟩
    exact Stage.exists_build hbody htests

theorem carriesNothing_normalize {p : Pipeline} (h : ∀ s ∈ p.stages, s.CarriesNothing) :
    ∀ s ∈ p.normalize.stages, s.CarriesNothing := by
  have hkept : ∀ s ∈ (handOn [] p.stages).filter fun s ↦ !isIdle s, s.CarriesNothing :=
    fun s hs ↦ body_handOn (p := fun body ↦ ∀ c ∈ body.components, c.CarriesNothing) h s
      (List.mem_filter.1 hs).1
  rw [normalize]
  split
  · exact List.forall_mem_singleton.2 (List.forall_mem_nil _)
  · exact hkept

/-- The order of the input lines, and the orders in which groups are rendered, are not seen in
the lines of the output if no fields of best rows are printed and all that is read as
numbers are integers, which are bounded in every sum.  If a run succeeds, whatever its sink
is, then the pipeline can also be built for other orders of groups and another sink, and run
on the lines in another order; that succeeds if the sink never fails, and if it succeeds, the
output has the same lines, as often. -/
theorem lines_perm [NumberReader] {p : Pipeline} {behaviour : SinkBehaviour} {threshold : Nat}
    {table : Table} {notices : List Notice} {lines lines' : List Bytes}
    (hplain : ∀ s ∈ p.stages, s.CarriesNothing)
    (hbuild : p.build engine orders (.new behaviour threshold) = .ok (table, notices))
    (hrun : (table.drain (lines.map Row.ofLine)).outcome = .ok ())
    (hrecords : (lines.mapM fun line ↦ (Row.ofLine line).fields) = .ok records)
    (hints : ReadsIntegers engine orders 0 p.normalize.stages records)
    (hperm : lines.Perm lines') (orders' : Nat → GroupOrder) (behaviour' : SinkBehaviour)
    (threshold' : Nat) :
    ∃ table' notices',
      p.build engine orders' (.new behaviour' threshold') = .ok (table', notices') ∧
      (behaviour'.NeverFails → (table'.drain (lines'.map Row.ofLine)).outcome = .ok ()) ∧
      ((table'.drain (lines'.map Row.ofLine)).outcome = .ok () → ∃ out out',
        Table.output (table.drain (lines.map Row.ofLine)) = .ok (some out) ∧
        Table.output (table'.drain (lines'.map Row.ofLine)) = .ok (some out') ∧
        (Lines.of out).Perm (Lines.of out')) := by
  obtain ⟨⟨built, others⟩, hbuilt, hbuild⟩ := bind_eq_ok.1 hbuild
  cases hbuild
  obtain ⟨records', hrecords', hsame⟩ := mapM_perm hrecords hperm
  have hrows : (lines.map Row.ofLine).mapM Row.fields = .ok records := by
    rwa [List.mapM_map]
  have hrows' : (lines'.map Row.ofLine).mapM Row.fields = .ok records' := by
    rwa [List.mapM_map]
  obtain ⟨made, hmade, houtput⟩ := output_of_buildStages hbuilt hrows hrun
  obtain ⟨made', hmade', hmadePerm⟩ :=
    meaningFrom_perm (carriesNothing_normalize hplain) hints hmade hsame orders'
  obtain ⟨⟨table', notices'⟩, hbuilt'⟩ :=
    exists_buildStages_writer hbuilt orders' (.new behaviour' threshold')
  refine ⟨table', .compiling p.normalize :: notices', ?_, fun hsink ↦ ?_, fun hrun' ↦ ?_⟩
  · rw [build, hbuilt']
    rfl
  · have hmeans := means_buildStages hsink hbuilt' _ _ hrows'
    dsimp only at hmeans
    rw [hmade', ok_bind] at hmeans
    obtain ⟨u, hok, -⟩ := map_eq_ok.1 hmeans
    exact hok
  · obtain ⟨found, hfound, houtput'⟩ := output_of_buildStages hbuilt' hrows' hrun'
    cases hfound.symm.trans hmade'
    exact ⟨_, _, houtput, houtput', Lines.of_printed_perm hmadePerm⟩

open Standard

/-- Sums are grouped again, and the least key of each kept.  The lines come in another order,
and the groups the other way round. -/
theorem lines_perm_regrouped :
    let engine : PatternEngine := fun _ ↦ .ok fun _ ↦ true
    let p : Pipeline := ⟨[⟨[], .aggregate [.key 0, .sum 1]⟩,
      ⟨[], .aggregate [.key 1, .extremum .lowest [0]]⟩]⟩
    let backwards : GroupOrder := ⟨List.reverse, List.reverse_perm⟩
    let lines : List Bytes := [[49, 32, 53], [50, 32, 45, 51], [49, 32, 50], [51, 32, 55]]
    let lines' : List Bytes := [[51, 32, 55], [49, 32, 50], [50, 32, 45, 51], [49, 32, 53]]
    ∃ table notices table' notices',
      p.build engine (fun _ ↦ .sorted) (.new .reliable 32768) = .ok (table, notices) ∧
      p.build engine (fun _ ↦ backwards) (.new .reliable 0) = .ok (table', notices') ∧
      Table.output (table.drain (lines.map Row.ofLine)) =
        .ok (some [45, 51, 9, 50, 10, 55, 9, 49, 10]) ∧
      ∃ out', Table.output (table'.drain (lines'.map Row.ofLine)) = .ok (some out') ∧
        [[45, 51, 9, 50], [55, 9, 49]].Perm (Lines.of out') := by
  intro engine p backwards lines lines'
  have hbuild : ∃ table notices, p.build engine (fun _ ↦ .sorted) (.new .reliable 32768) =
      .ok (table, notices) := ⟨_, _, rfl⟩
  obtain ⟨table, notices, htable⟩ := hbuild
  have houtput : Table.output (table.drain (lines.map Row.ofLine)) =
      .ok (some [45, 51, 9, 50, 10, 55, 9, 49, 10]) := by
    have hmeaning : p.normalize.meaning engine (fun _ ↦ .sorted) lines =
        .ok [45, 51, 9, 50, 10, 55, 9, 49, 10] := by decide +kernel
    rw [output_eq_normalize htable SinkBehaviour.neverFails_reliable, hmeaning]
    rfl
  obtain ⟨u, hrun, -⟩ := map_eq_ok.1 houtput
  have hfirst : Stage.meaning engine .sorted false ⟨[], .aggregate [.key 0, .sum 1]⟩
      [[[49], [53]], [[50], [45, 51]], [[49], [50]], [[51], [55]]] =
        .ok [[[49], [55]], [[50], [45, 51]], [[51], [55]]] := by
    decide +kernel
  have hints : ReadsIntegers engine (fun _ ↦ .sorted) 0 p.stages
      [[[49], [53]], [[50], [45, 51]], [[49], [50]], [[51], [55]]] := by
    refine ⟨?_, fun made hmade ↦ ⟨?_, fun _ _ ↦ trivial⟩⟩
    · rintro tests ⟨⟩
      refine ⟨by decide +kernel, fun field hfield values ↦ ?_⟩
      obtain rfl : field = 1 := by simpa [Body.components] using hfield
      have hall : Numeric.Bounded [5, -3, 2, 7] := ⟨by decide, by decide⟩
      exact hall.of_sublist (List.filter_sublist.filterMap _)
    · cases hmade.symm.trans hfirst
      rintro tests ⟨⟩
      exact ⟨by decide +kernel, fun field hfield ↦ by simp [Body.components] at hfield⟩
  have hplain : ∀ s ∈ p.stages, s.CarriesNothing := by
    simp [p, Stage.CarriesNothing, Body.components, Component.CarriesNothing]
  have hperm : lines.Perm lines' := by decide
  obtain ⟨table', notices', htable', hok, hlines⟩ := lines_perm hplain htable hrun
    (by decide +kernel) hints hperm (fun _ ↦ backwards) .reliable 0
  obtain ⟨out, out', hout, hout', hsame⟩ := hlines (hok SinkBehaviour.neverFails_reliable)
  cases houtput.symm.trans hout
  exact ⟨table, notices, table', notices', htable, htable', houtput, out', hout', hsame⟩

end Pipeline

end Rollup
