import Mathlib.Tactic.Choose
import Rollup.Number.Standard
import Rollup.Proofs.Table.Layout
import Rollup.Proofs.Table.Solo

/-!
# Stages with several components

Whichever kind of table an aggregating stage needs, it is a grouping with a
bundle of all its aggregates (`buildBody_eq_ok`), and so it hands on a row for
every tuple.  Every component shows a part of this row (`exists_cells`), and what
it shows there is what it shows in a stage that has no other component than the
keys (`handsOn_withKeys`).
-/

namespace Rollup

open Outcome Grouping

/-! ## Three kinds of tables -/

theorem Bundle.fresh_ofLayout {aggregates : List Aggregate} {layout : Layout}
    (h : Layout.of (slotSizes aggregates) = .ok layout) (capacity : Nat) :
    (ofLayout aggregates layout capacity).Fresh where
  placed := wellPlaced_ofLayout h capacity
  new slot hslot := by
    rw [slots_ofLayout] at hslot
    obtain ⟨p, -, rfl⟩ := List.mem_map.1 hslot
    rfl

/-- Aggregating nothing prints no more than no aggregate. -/
theorem line_of_nothing [NumberReader] {keys : List Key} {width : Nat} {rows : List Row}
    {t line : List Bytes}
    (h : Line keys [.nothing] width rows t line) : Line keys [] width rows t line := by
  obtain ⟨shares, hshares, rfl⟩ := h
  obtain ⟨entries, rest, hprints, hrest, rfl⟩ := List.forall₂_cons_left_iff.1 hshares
  cases hprints
  cases hrest
  exact ⟨[], .nil, rfl⟩

/-- The aggregates of the bundle print the same columns as these. -/
def SameLines (bundle : Bundle) (aggregates : List Aggregate) : Prop :=
  aggregatesOf bundle.slots = aggregates ∨
    aggregatesOf bundle.slots = [.nothing] ∧ aggregates = []

namespace SameLines

variable {bundle : Bundle} {aggregates : List Aggregate} {keys : List Key} {width : Nat}

theorem line [NumberReader] (h : SameLines bundle aggregates) {rows : List Row}
    {t line : List Bytes} (hline : Line keys (aggregatesOf bundle.slots) width rows t line) :
    Line keys aggregates width rows t line := by
  rcases h with h | ⟨h, rfl⟩
  · rwa [h] at hline
  · rw [h] at hline
    exact line_of_nothing hline

theorem columnsOf_eq (h : SameLines bundle aggregates) (keys : List Key) :
    columnsOf keys (aggregatesOf bundle.slots) = columnsOf keys aggregates := by
  rcases h with h | ⟨h, rfl⟩ <;> rw [h]
  rfl

theorem fits (h : SameLines bundle aggregates) (hfits : Fits keys aggregates width) :
    Fits keys (aggregatesOf bundle.slots) width :=
  ⟨h.columnsOf_eq keys ▸ hfits.nodup, h.columnsOf_eq keys ▸ hfits.lt_width⟩

end SameLines

namespace Table

variable {keys : List Key} {aggregates : List Aggregate} {order : GroupOrder} {width : Nat}
  {next table : Table} {notices : List Notice}

/-- However many aggregates there are, the table groups rows for a bundle of them,
in front of whatever table and in whatever order. -/
theorem aggregating_eq_ok
    (h : aggregating keys aggregates order width next = .ok (table, notices)) :
    ∃ bundle, bundle.Fresh ∧ SameLines bundle aggregates ∧
      table = grouping keys bundle order width next ∧
      ∀ order' next', aggregating keys aggregates order' width next' =
        .ok (grouping keys bundle order' width next', notices) := by
  match aggregates with
  | [] =>
    obtain ⟨built, hbuilt, heq⟩ := map_eq_ok.1 h
    obtain ⟨rfl, rfl⟩ := Prod.mk.inj heq
    rw [distinct] at hbuilt
    split at hbuilt
    · cases hbuilt
    · rename_i hkeys
      cases hbuilt
      refine ⟨_, Bundle.fresh_single .nothing, .inr ⟨rfl, rfl⟩, rfl, fun order' next' ↦ ?_⟩
      rw [aggregating, distinct, if_neg hkeys]
      rfl
  | [aggregate] =>
    cases h
    exact ⟨_, Bundle.fresh_single aggregate, .inl rfl, rfl, fun _ _ ↦ rfl⟩
  | first :: second :: rest =>
    obtain ⟨⟨bundle, layout⟩, hpacked, h⟩ := bind_eq_ok.1 h
    cases h
    have hall (order' : GroupOrder) (next' : Table) :
        aggregating keys (first :: second :: rest) order' width next' =
          .ok (grouping keys bundle order' width next',
            [.packing (Bundle.slotSizes (first :: second :: rest)) layout bundle.capacity]) := by
      rw [aggregating, packed, hpacked]
      · rfl
      · exact fun h ↦ by cases h
      · exact fun _ h ↦ by cases h
    obtain ⟨found, capacity, hlayout, -, heq⟩ := Bundle.packed_eq_ok_iff.1 hpacked
    cases heq
    exact ⟨_, Bundle.fresh_ofLayout hlayout capacity,
      .inl (Bundle.aggregates_ofLayout hlayout capacity), rfl, hall⟩

end Table

namespace Stage

open Table

variable {components : List Component} {order : GroupOrder} {next table : Table}
  {notices : List Notice}

/-- The stage groups rows by its keys for a bundle of its aggregates, in front of
whatever table and in whatever order. -/
theorem buildBody_eq_ok
    (h : buildBody (.aggregate components) order next = .ok (table, notices)) :
    ∃ a bundle, Assignment.from 0 components = .ok a ∧ bundle.Fresh ∧
      SameLines bundle a.aggregates ∧ table = grouping a.keys bundle order a.width next ∧
      ∀ order' next', buildBody (.aggregate components) order' next' =
        .ok (grouping a.keys bundle order' a.width next', notices) := by
  obtain ⟨a, ha, h⟩ := bind_eq_ok.1 h
  split at h
  · cases h
  · rename_i hwidth
    obtain ⟨⟨built, others⟩, hbuilt, h⟩ := bind_eq_ok.1 h
    cases h
    obtain ⟨bundle, hfresh, hsame, htable, hall⟩ := aggregating_eq_ok hbuilt
    refine ⟨a, bundle, ha, hfresh, hsame, htable, fun order' next' ↦ ?_⟩
    rw [buildBody, ha, ok_bind, if_neg hwidth, hall order' next']
    rfl

/-- A component and the keys alone make a stage with a single aggregate. -/
theorem buildBody_withKeys {c : Component} {aggregate : Aggregate} {column : Nat}
    (h : c.aggregate? column = .ok (some aggregate)) (components : List Component)
    (order : GroupOrder) (next : Table) :
    ∃ keys aggregate' width notices,
      keys.map Key.field = components.filterMap Component.key? ∧
      aggregate'.unplaced = aggregate.unplaced ∧
      (∃ column', c.aggregate? column' = .ok (some aggregate')) ∧
      columnsOf keys [aggregate'] = List.range width ∧
      buildBody (.aggregate (c.withKeys components)) order next =
        .ok (grouping keys (.single aggregate') order width next, notices) := by
  have hfront : ∀ k ∈ components.filter fun c ↦ c.key?.isSome, k.key?.isSome :=
    fun k hk ↦ (List.mem_filter.1 hk).2
  obtain ⟨aggregate', h'⟩ := Component.exists_aggregate h
    (0 + (components.filter fun c ↦ c.key?.isSome).length)
  obtain ⟨keys, hfrom, hcolumns⟩ := Assignment.from_keys_snoc hfront h'
  have hnone : c.key? = none := by
    cases c with
    | key field => cases h
    | _ => rfl
  have hwidth : 0 + (components.filter fun c ↦ c.key?.isSome).length + c.width ≠ 0 := by
    have := c.width_pos
    omega
  have hfields : keys.map Key.field = components.filterMap Component.key? := by
    have hkeys := Assignment.keys_eq hfrom
    rw [List.filterMap_append, List.filterMap_cons_none hnone, List.filterMap_nil,
      List.append_nil, List.filterMap_filter] at hkeys
    rw [hkeys]
    refine List.filterMap_congr fun k _ ↦ ?_
    cases k.key? <;> rfl
  have hall : columnsOf keys [aggregate'] =
      List.range (0 + (components.filter fun c ↦ c.key?.isSome).length + c.width) := by
    rw [columnsOf, hcolumns, List.flatMap_singleton, Assignment.columns_of_aggregate h',
      List.range'_append_1, List.range_eq_range', Nat.zero_add]
  have hbuild : ∃ notices, buildBody (.aggregate (c.withKeys components)) order next =
      .ok (grouping keys (.single aggregate') order
        (0 + (components.filter fun c ↦ c.key?.isSome).length + c.width) next, notices) := by
    rw [buildBody, Component.withKeys, hfrom, ok_bind, if_neg hwidth]
    exact ⟨_, rfl⟩
  obtain ⟨notices, hbuild⟩ := hbuild
  exact ⟨keys, aggregate', _, notices, hfields, Part.unplaced_eq h' h, ⟨_, h'⟩, hall, hbuild⟩

end Stage

/-! ## What components show -/

namespace Table

/-- The table takes in these rows, and on finishing gives these lines to the table
behind it and finishes that. -/
def HandsOn [NumberReader] (table : Table) (rows : List Row) (lines : List (List Bytes))
    (next : Table) : Prop :=
  (Step.each push rows table).outcome = .ok () ∧ ∃ stage columns,
    (Step.each push rows table).state.finish.1 = (handOn lines next).map (.grouped stage columns)

/-- For every group that the table has after these rows, every column is written
once. -/
def WritesOnce [NumberReader] (table : Table) (rows : List Row) : Prop :=
  ∀ stage columns next, (Step.each push rows table).state = .grouped stage columns next →
    ∀ entry ∈ stage.grouping.ordered stage.order, ∃ entries,
      (entries.map Prod.fst).Perm (List.range columns.size) ∧
      ∀ columns', stage.grouping.fill stage.bundle columns' entry = columns'.putAll entries

end Table

theorem eq_map_of_forall₂ {α β : Type} {f : α → β} {xs : List α} {ys : List β}
    (h : List.Forall₂ (fun x y ↦ y = f x) xs ys) : ys = xs.map f := by
  induction h with
  | nil => rfl
  | cons heq _ ih => rw [heq, ih, List.map_cons]

/-- A tuple and one aggregate that fill the whole row follow each other. -/
theorem line_eq_append [NumberReader] {keys : List Key} {aggregate : Aggregate} {width : Nat}
    {rows : List Row} {t line : List Bytes} (hall : columnsOf keys [aggregate] = List.range width)
    (hlength : t.length = keys.length) (h : Line keys [aggregate] width rows t line) :
    ∃ entries, aggregate.Prints (members keys t rows) entries ∧
      line = t ++ entries.map Prod.snd := by
  obtain ⟨shares, hshares, rfl⟩ := h
  rw [Columns.row_of_all ((columns_of_shares hlength hshares).trans hall)]
  obtain ⟨entries, rest, hprints, hrest, rfl⟩ := List.forall₂_cons_left_iff.1 hshares
  cases hrest
  refine ⟨entries, hprints, ?_⟩
  rw [List.map_append, List.map_snd_zip (by simp [hlength]), List.flatten_singleton]

namespace Stage

open Table

variable {components : List Component} {order : GroupOrder} {next table : Table}
  {notices : List Notice} {rows : List Row}

/-- A component shows next to the keys what it shows among all components. -/
theorem handsOn_withKeys [NumberReader] {keys : List Key} {bundle : Bundle} {width : Nat}
    {c : Component} {aggregate : Aggregate} {column : Nat} {tuples : List (List Bytes)}
    {cell : List Bytes → List Bytes} (hfresh : bundle.Fresh)
    (haggregate : c.aggregate? column = .ok (some aggregate))
    (hmem : aggregate ∈ aggregatesOf bundle.slots)
    (hkeys : keys.map Key.field = components.filterMap Component.key?)
    (hok : (Step.each push rows (grouping keys bundle order width next)).outcome = .ok ())
    (htuples : rows.mapM (tuple keys) = .ok tuples) (hdata : ¬ (keys = [] ∧ rows = []))
    (hcell : ∀ t ∈ tuples, ∃ row part, Part row (members keys t rows) c part ∧
      cell t = part.map Prod.snd) (next' : Table) :
    ∃ (solo : Table) (notices : List Notice) (ts : List (List Bytes)),
      buildBody (.aggregate (c.withKeys components)) order next' = .ok (solo, notices) ∧
      ts.Perm tuples.dedup ∧ HandsOn solo rows (ts.map fun t ↦ t ++ cell t) next' := by
  obtain ⟨keys', aggregate', width', notices, hkeys', hunplaced, ⟨column', haggregate'⟩, hall,
    hbuild⟩ := buildBody_withKeys haggregate components order next'
  have hfields : keys'.map Key.field = keys.map Key.field := hkeys'.trans hkeys.symm
  have hok' : (Step.each push rows
      (grouping keys' (.single aggregate') order width' next')).outcome = .ok () :=
    solo_ok hfresh hmem hunplaced hfields hok
  have hnew : GroupStage.Holds ⟨.new keys', .single aggregate', 0, order⟩ keys' [aggregate'] [] :=
    holds_new (Bundle.fresh_single aggregate').sound keys' 0 order
  obtain ⟨stage, hstate, hholds⟩ := run_holds hnew hok'
  have hfits : Fits keys' [aggregate'] width' :=
    ⟨hall ▸ List.nodup_range, fun c hc ↦ List.mem_range.1 (hall ▸ hc)⟩
  obtain ⟨tuples', ts, lines, htuples', -, hperm, hlines, hfinish⟩ := finish_holds hholds hfits
  have hsame : tuples' = tuples := by
    rw [funext (tuple_congr hfields)] at htuples'
    exact Except.ok.inj (htuples'.symm.trans htuples)
  subst hsame
  have hnone : ¬ (keys' = [] ∧ rows = []) := fun ⟨hnil, hrows⟩ ↦
    hdata ⟨List.map_eq_nil_iff.1 (hfields ▸ List.map_eq_nil_iff.2 hnil), hrows⟩
  have hlines' : lines = ts.map fun t ↦ t ++ cell t := by
    refine eq_map_of_forall₂ (((List.forall₂_and_left ts lines).2
      ⟨fun t ht ↦ List.mem_dedup.1 (hperm.subset ht), hlines⟩).imp fun t line hline ↦ ?_)
    obtain ⟨ht, hline⟩ := hline
    obtain ⟨entries, hprints, rfl⟩ :=
      line_eq_append hall (length_of_mem_tuples htuples' ht) hline
    obtain ⟨row, part, hpart, hcell⟩ := hcell t ht
    rw [members_congr hfields] at hprints
    rw [hcell, (Part.aggregate haggregate' hprints).values_eq hpart]
  have hdone := hfinish (.blank width') next' (ready_blank keys' [aggregate'] width')
  rw [if_neg hnone, ← hstate, hlines'] at hdone
  exact ⟨_, notices, ts, hbuild, hperm, hok', hdone⟩

/-- Parts that show the same values as some cells make the same row. -/
theorem values_of_parts [NumberReader] {row : Row} {group : List Row}
    {cell : Component → List Bytes}
    {parts : List (List (Nat × Bytes))} (hparts : List.Forall₂ (Part row group) components parts)
    (hcell : ∀ c ∈ components, ∃ part, Part row group c part ∧ cell c = part.map Prod.snd) :
    parts.flatten.map Prod.snd = components.flatMap cell := by
  induction hparts with
  | nil => rfl
  | cons hpart _ ih =>
    rw [List.forall_mem_cons] at hcell
    obtain ⟨⟨part, hpart', heq⟩, hrest⟩ := hcell
    rw [List.flatten_cons, List.map_append, List.flatMap_cons, ih hrest, heq,
      hpart.values_eq hpart']

/-- The row of every tuple is put together from cells, one for each component. -/
theorem exists_cells [NumberReader] {a : Assignment} {tuples ts lines : List (List Bytes)}
    (ha : Assignment.from 0 components = .ok a) (htuples : rows.mapM (tuple a.keys) = .ok tuples)
    (hts : ts ⊆ tuples) (hlines : List.Forall₂ (Line a.keys a.aggregates a.width rows) ts lines) :
    ∃ cell : Component → List Bytes → List Bytes,
      lines = ts.map (fun t ↦ components.flatMap (cell · t)) ∧
      ∀ c ∈ components, ∀ t ∈ ts, ∃ row part, tuple a.keys row = .ok t ∧
        Part row (members a.keys t rows) c part ∧ cell c t = part.map Prod.snd := by
  have hrow (t : List Bytes) : ∃ row, t ∈ ts → tuple a.keys row = .ok t := by
    by_cases ht : t ∈ ts
    · obtain ⟨row, -, hrow⟩ := (mem_tuples_iff htuples).1 (hts ht)
      exact ⟨row, fun _ ↦ hrow⟩
    · exact ⟨⟨[], []⟩, fun h ↦ absurd h ht⟩
  choose row hrow using hrow
  have hpart (c : Component) (t : List Bytes) : ∃ part, c ∈ components → t ∈ ts →
      Part (row t) (members a.keys t rows) c part := by
    by_cases ht : t ∈ ts
    · obtain ⟨line, -, hline⟩ := exists_of_forall₂ hlines ht
      obtain ⟨parts, hparts, -⟩ := Assignment.line_eq_parts ha hline (hrow t ht)
      by_cases hc : c ∈ components
      · obtain ⟨part, -, hpart⟩ := exists_of_forall₂ hparts hc
        exact ⟨part, fun _ _ ↦ hpart⟩
      · exact ⟨[], fun h _ ↦ absurd h hc⟩
    · exact ⟨[], fun _ h ↦ absurd h ht⟩
  choose part hpart using hpart
  refine ⟨fun c t ↦ (part c t).map Prod.snd, ?_, fun c hc t ht ↦
    ⟨row t, part c t, hrow t ht, hpart c t hc ht, rfl⟩⟩
  refine eq_map_of_forall₂ (((List.forall₂_and_left ts lines).2 ⟨fun _ h ↦ h, hlines⟩).imp
    fun t line ⟨ht, hline⟩ ↦ ?_)
  obtain ⟨parts, hparts, rfl⟩ := Assignment.line_eq_parts ha hline (hrow t ht)
  exact values_of_parts hparts fun c hc ↦ ⟨part c t, hpart c t hc ht, rfl⟩

/-- Rows of one tuple agree on every key. -/
theorem field_congr {fields : List Nat} {row row' : Row} {t : List Bytes}
    (h : fields.mapM row.field = .ok t) (h' : fields.mapM row'.field = .ok t) {field : Nat}
    (hfield : field ∈ fields) : row.field field = row'.field field := by
  induction fields generalizing t with
  | nil => cases hfield
  | cons first rest ih =>
    obtain ⟨value, values, hvalue, hvalues, rfl⟩ := mapM_cons_eq_ok.1 h
    obtain ⟨value', values', hvalue', hvalues', heq⟩ := mapM_cons_eq_ok.1 h'
    obtain ⟨rfl, rfl⟩ := List.cons.inj heq
    rcases List.mem_cons.1 hfield with rfl | hfield
    · exact hvalue.trans hvalue'.symm
    · exact ih hvalues hvalues' hfield

/-- Without keys all rows have the same tuple. -/
theorem tuples_without_keys {tuples ts : List (List Bytes)} (h : rows.mapM (tuple []) = .ok tuples)
    (hdata : rows ≠ []) (hperm : ts.Perm tuples.dedup) : ts = [[]] := by
  have hall : tuples = List.replicate tuples.length [] := by
    refine List.eq_replicate_iff.2 ⟨rfl, fun t ht ↦ ?_⟩
    exact List.eq_nil_of_length_eq_zero (length_of_mem_tuples h ht)
  have hne : tuples.length ≠ 0 := by
    rw [length_of_mapM h]
    exact mt List.eq_nil_of_length_eq_zero hdata
  rw [hall, List.replicate_dedup hne] at hperm
  exact List.perm_singleton.1 hperm

theorem writesOnce_of_holds [NumberReader] {stage : GroupStage} {keys : List Key}
    {aggregates : List Aggregate} {width : Nat} (hholds : stage.Holds keys aggregates rows)
    (hall : (columnsOf keys aggregates).Perm (List.range width))
    (hstate : (Step.each push rows table).state = .grouped stage (.blank width) next) :
    WritesOnce table rows := by
  intro stage' columns next' hstate' entry hentry
  cases hstate.symm.trans hstate'
  obtain ⟨rfl, rfl, hcoded, htracks⟩ := hholds
  obtain ⟨tuples, htuples, hcodes⟩ := tuples_of_coded hcoded
  obtain ⟨ts, -, -, hgroups⟩ := ordered_tuples htracks htuples hcodes stage.order
  obtain ⟨t, -, hgroup⟩ := exists_of_forall₂ (List.Forall₂.flip hgroups) hentry
  obtain ⟨shares, hshares, hfill⟩ := fill_eq htracks hgroup
  refine ⟨_, ?_, hfill⟩
  rw [columns_of_shares hgroup.1 hshares, (ready_blank [] [] width).size_eq]
  exact hall

/-- A stage hands on one row for every tuple, in which its components stand one
after the other, each as wide as it is: a key shows the field of the rows, and
any other component what it shows in a stage with the keys alone. -/
theorem buildBody_eq_alone [NumberReader]
    (hbuild : buildBody (.aggregate components) order next = .ok (table, notices))
    (hok : (Step.each push rows table).outcome = .ok ())
    (hdata : components.filterMap Component.key? ≠ [] ∨ rows ≠ []) :
    ∃ (tuples ts : List (List Bytes)) (cell : Component → List Bytes → List Bytes),
      (rows.mapM fun row ↦ (components.filterMap Component.key?).mapM row.field) = .ok tuples ∧
      ts.Perm tuples.dedup ∧
      (components.filterMap Component.key? = [] → ts = [[]]) ∧
      HandsOn table rows (ts.map fun t ↦ components.flatMap (cell · t)) next ∧
      WritesOnce table rows ∧
      (∀ c ∈ components, ∀ t ∈ tuples, (cell c t).length = c.width) ∧
      (∀ field, .key field ∈ components → ∀ row ∈ rows, ∀ t,
        (components.filterMap Component.key?).mapM row.field = .ok t →
          ∃ value, row.field field = .ok value ∧ cell (.key field) t = [value]) ∧
      ∀ c ∈ components, c.key? = none → ∀ next',
        ∃ (solo : Table) (notices' : List Notice) (ts' : List (List Bytes)),
          buildBody (.aggregate (c.withKeys components)) order next' = .ok (solo, notices') ∧
          ts'.Perm tuples.dedup ∧ HandsOn solo rows (ts'.map fun t ↦ t ++ cell c t) next' := by
  obtain ⟨a, bundle, ha, hfresh, hsame, rfl, -⟩ := buildBody_eq_ok hbuild
  have hkeys := Assignment.keys_eq ha
  have hfits := hsame.fits (Assignment.fits_of_from ha)
  obtain ⟨stage, hstate, hholds⟩ := run_holds (holds_new hfresh.sound a.keys 0 order) hok
  obtain ⟨tuples, ts, lines, htuples, -, hperm, hlines, hfinish⟩ := finish_holds hholds hfits
  have hts : ts ⊆ tuples := fun t ht ↦ List.mem_dedup.1 (hperm.subset ht)
  have hmem {t : List Bytes} (ht : t ∈ tuples) : t ∈ ts := hperm.symm.subset (List.mem_dedup.2 ht)
  have hnone : ¬ (a.keys = [] ∧ rows = []) := by
    rw [← hkeys] at hdata
    rintro ⟨hnil, hrows⟩
    rcases hdata with h | h
    · exact h (List.map_eq_nil_iff.2 hnil)
    · exact h hrows
  obtain ⟨cell, hcells, hcell⟩ :=
    exists_cells ha htuples hts (hlines.imp fun _ _ hline ↦ hsame.line hline)
  have hfields (row : Row) : tuple a.keys row =
      (components.filterMap Component.key?).mapM row.field := by rw [tuple_eq, hkeys]
  have hdone := hfinish (.blank a.width) next (ready_blank ..)
  rw [if_neg hnone, ← hstate, hcells] at hdone
  refine ⟨tuples, ts, cell, ?_, hperm, ?_, ⟨hok, hdone⟩, ?_, ?_, ?_, ?_⟩
  · rw [← funext hfields]
    exact htuples
  · intro hnil
    have hkeysNil : a.keys = [] := List.map_eq_nil_iff.1 (hkeys.trans hnil)
    rw [hkeysNil] at htuples
    exact tuples_without_keys htuples (fun hrows ↦ hnone ⟨hkeysNil, hrows⟩) hperm
  · refine writesOnce_of_holds hholds ?_ hstate
    rw [hsame.columnsOf_eq, Assignment.width_eq ha, Nat.zero_add, List.range_eq_range']
    exact Assignment.columns_perm ha
  · intro c hc t ht
    obtain ⟨row, part, -, hpart, heq⟩ := hcell c hc t (hmem ht)
    rw [heq, List.length_map, hpart.length_eq]
  · intro field hfield row hrow t ht
    have htuple := (hfields row).trans ht
    obtain ⟨row', part, hrow', hpart, heq⟩ :=
      hcell _ hfield t (hmem ((mem_tuples_iff htuples).2 ⟨row, hrow, htuple⟩))
    cases hpart with
    | key hvalue =>
      rw [hfields] at hrow'
      have hin : field ∈ components.filterMap Component.key? :=
        List.mem_filterMap.2 ⟨.key field, hfield, rfl⟩
      exact ⟨_, (field_congr ht hrow' hin).trans hvalue, heq⟩
    | aggregate haggregate => cases haggregate
  · intro c hc hkey next'
    obtain ⟨column, aggregate, haggregate, hin⟩ := Assignment.exists_mem_aggregates ha hc hkey
    have hbundle : aggregate ∈ aggregatesOf bundle.slots := by
      rcases hsame with heq | ⟨-, hnil⟩
      · rwa [heq]
      · rw [hnil] at hin
        cases hin
    refine handsOn_withKeys hfresh haggregate hbundle hkeys hok htuples hnone (fun t ht ↦ ?_) next'
    obtain ⟨row, part, -, hpart, heq⟩ := hcell c hc t (hmem ht)
    exact ⟨row, part, hpart, heq⟩

open Standard

/-- Three aggregates in one buffer, with a key between them. -/
theorem buildBody_eq_alone_packed :
    let components : List Component := [.count, .key 0, .extremum .highest [1, 2], .sum 1]
    let aggregates : List Aggregate := [.count 0, .bestRow .highest 1 [⟨2, 2⟩], .sum 1 3]
    let table := grouping [⟨0, 1⟩] (.ofLayout aggregates ⟨56, [48, 0, 32]⟩ 64) .sorted 4
      (.recorder #[])
    let rows : List Row := [.ofFields [[97], [49], [120]], .ofFields [[98], [53], [121]],
      .ofFields [[97], [51], [122]]]
    (∃ notices, buildBody (.aggregate components) .sorted (.recorder #[]) = .ok (table, notices)) ∧
      (Step.each push rows table).outcome = .ok () ∧
      ∃ (ts : List (List Bytes)) (cell : Component → List Bytes → List Bytes),
        ts.Perm [[[98]], [[97]]] ∧
        HandsOn table rows (ts.map fun t ↦ components.flatMap (cell · t)) (.recorder #[]) := by
  intro components aggregates table rows
  have hbuild : ∃ notices, buildBody (.aggregate components) .sorted (.recorder #[]) =
      .ok (table, notices) := ⟨_, rfl⟩
  have hok : (Step.each push rows table).outcome = .ok () := by decide +kernel
  have hall : (rows.mapM fun row ↦ (components.filterMap Component.key?).mapM row.field) =
      .ok [[[97]], [[98]], [[97]]] := by rfl
  obtain ⟨notices, hnotices⟩ := hbuild
  obtain ⟨tuples, ts, cell, htuples, hperm, -, hdone, -⟩ :=
    buildBody_eq_alone hnotices hok (.inl (by decide))
  obtain rfl : tuples = [[[97]], [[98]], [[97]]] := Except.ok.inj (htuples.symm.trans hall)
  exact ⟨⟨notices, hnotices⟩, hok, ts, cell, hperm, hdone⟩

end Stage

end Rollup
