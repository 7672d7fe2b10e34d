import Rollup.Number.Standard
import Rollup.Proofs.Table.FirstBest
import Rollup.Proofs.Table.Following
import Rollup.Proofs.Table.SecureChain

/-!
# Fields of the best row

A stage that carries fields of the best row prints them for every group, whatever rows of other
groups come between, and whatever becomes of those (`Table.aggregating_firstBest`).  The best
row is the first whose value none of the others beats, where values are compared exactly.

| What is shown | Where from |
|---|---|
| the stage remembers all rows of the group | `Table.serveAll_follows` |
| it keeps fields of the champion of these rows | `Memory.tells_of_ofRows` |
| the champion is the first of the best | `Aggregate.Champion.firstBest` |
| the row for the group shows what was kept | `Table.emitGroups_renders` |
-/

namespace Rollup

open Outcome Aggregator Aggregate Rollup.Bundle

open Grouping (Knows IsGroup Fits Ready tuple code keyOf members coded aggregatesOf columnsOf)

/-! ## A group alone -/

/-- Rows with numbers whose carried fields have room in a blob can be remembered. -/
theorem Memory.exists_ofRows_bestRow [NumberReader] {goal : Goal} {field : Nat}
    {carried : List CarriedField}
    {rows : List Row} (hne : rows ≠ []) (hnumbers : ∀ row ∈ rows, ∃ x, number row field = .ok x)
    (hblobs : ∀ row ∈ rows, ∃ blob, carriedBlob carried row = .ok blob ∧ blob.length < 1 <<< 32) :
    ∃ m, ofRows (.bestRow goal field carried) rows = .ok m := by
  have hfields : ∀ row ∈ rows, ∃ fields, carriedFields carried row = .ok fields := by
    intro row hrow
    obtain ⟨blob, hblob, hshort⟩ := hblobs row hrow
    obtain ⟨fields, -, -, hfields⟩ := carriedFields_of_ok hblob
    rw [hfields, Arena.entry_eq_ok hshort]
    exact ⟨fields, rfl⟩
  clear hblobs
  induction rows using List.reverseRecOn with
  | nil => exact absurd rfl hne
  | append_singleton rows row ih =>
    rw [List.forall_mem_append, List.forall_mem_singleton] at hnumbers hfields
    obtain ⟨x, hx⟩ := hnumbers.2
    obtain ⟨fields, hfields'⟩ := hfields.2
    by_cases hfirst : rows = []
    · subst hfirst
      rw [List.nil_append, ofRows_singleton, start, hx, ok_bind, hfields']
      exact ⟨_, rfl⟩
    · obtain ⟨m, hm⟩ := ih hfirst hnumbers.1 hfields.1
      rw [ofRows_snoc hfirst, hm, ok_bind]
      cases tells_of_ofRows hm with
      | @bestRow _ _ _ y ys _ kept hys _ _ =>
        dsimp only [absorb]
        rw [hx]
        dsimp only
        cases (best goal (y :: ys)).improvement? goal x with
        | none => exact ⟨_, rfl⟩
        | some better =>
          rw [hfields']
          exact ⟨_, rfl⟩

/-! ## Lines -/

/-- The entries stand in the fields of a line, each in its column. -/
def Shows (fields : List Bytes) (entries : List (Nat × Bytes)) : Prop :=
  ∀ entry ∈ entries, fields[entry.1]? = some entry.2

theorem shows_row {width : Nat} {entries shown : List (Nat × Bytes)}
    (hnodup : (entries.map Prod.fst).Nodup) (hlt : ∀ column ∈ entries.map Prod.fst, column < width)
    (hsub : shown ⊆ entries) : Shows (Columns.row width entries) shown := by
  intro entry hentry
  have hmem : entry ∈ entries := hsub hentry
  have hcolumn : entry.1 < width := hlt _ (List.mem_map_of_mem hmem)
  rw [Columns.row, List.getElem?_map, List.getElem?_range hcolumn, Option.map_some,
    Columns.lookup_of_mem hnodup hmem]
  rfl

namespace Table

variable [NumberReader] {keys : List Key} {aggregates : List Aggregate} {order : GroupOrder}
  {width : Nat} {next table : Table} {notices : List Notice} {goal : Goal} {field : Nat}
  {carried : List CarriedField} {rows : List Row} {t : List Bytes} {k : Bytes} {stage : GroupStage}
  {columns : Columns}

/-- A new stage follows every group. -/
theorem follows_new {bundle : Bundle} (hfresh : bundle.Fresh) (hroom : bundle.HasRoom)
    (hfits : Fits keys (aggregatesOf bundle.slots) width) (k : Bytes) :
    GroupStage.Follows keys (aggregatesOf bundle.slots) width k [] 0
      ⟨.new keys, bundle, 0, order⟩ where
  secure := GroupStage.secure_new hfresh hroom hfits.lt_width order
  intact := GroupStage.intact_new hfresh keys 0 order
  aggregates_eq := rfl
  slots slot hslot := ⟨by simp [Grouping.new, coded], _, hfresh.sound.knows slot hslot,
    fun hk ↦ by simp [Grouping.new] at hk⟩

/-- If all rows of a group are taken in, its tuple has a code. -/
theorem exists_code_of_taken {requests : Nat} (h : stage.Intact keys requests)
    (hne : members keys t rows ≠ [])
    (htaken : List.Forall₂ (fun row outcome ↦ tuple keys row = .ok t → outcome = .ok ()) rows
      (serveAll (.grouped stage columns next) (rows.map .push)).2) : ∃ k, code t = .ok k := by
  induction rows generalizing stage requests with
  | nil => exact absurd rfl hne
  | cons row rows ih =>
    obtain ⟨hrow, hrows⟩ := List.forall₂_cons.1 htaken
    by_cases htuple : tuple keys row = .ok t
    · have hok : (stage.grouping.push stage.bundle row).outcome = .ok () := hrow htuple
      cases hkey : keyOf stage.grouping.keys row with
      | error e =>
        rw [Grouping.push_of_keyOf_error hkey] at hok
        cases hok
      | ok k =>
        rw [h.keys_eq] at hkey
        obtain ⟨u, hu, hcode⟩ := Grouping.keyOf_eq_ok.1 hkey
        cases hu.symm.trans htuple
        exact ⟨k, hcode⟩
    · apply ih (GroupStage.intact_after h row) _ hrows
      rwa [members, List.filter_cons_of_neg (mt Grouping.hasTuple_iff.1 htuple)] at hne

/-- A stage that knows comparable rows of a group prints the fields of the first of the best. -/
theorem exists_firstBest {requests : Nat} (h : stage.Follows keys aggregates width k rows requests)
    (hmem : .bestRow goal field carried ∈ aggregates) (hne : coded keys rows k ≠ [])
    (hcomparable : Comparable field (coded keys rows k)) :
    ∃ slot ∈ stage.bundle.slots, ∃ buffer champion v values,
      stage.grouping.groups[k]? = some buffer ∧
      FirstBest goal field (coded keys rows k) champion v ∧
      (carried.mapM fun c ↦ champion.field c.field) = .ok values ∧
      slot.entries buffer = .ok ((carried.map CarriedField.column).zip values) := by
  rw [← h.aggregates_eq] at hmem
  obtain ⟨slot, hslot, haggregate⟩ := List.mem_map.1 hmem
  have hfollows := h.slots slot hslot
  have hgroup := hfollows.mem_iff.2 hne
  obtain ⟨memories, hknows, hrows⟩ := hfollows.knows
  obtain ⟨buffer, hbuffer⟩ :=
    Option.isSome_iff_exists.1 (Std.TreeMap.mem_iff_isSome_getElem?.1 hgroup)
  obtain ⟨s, hheld, hshows⟩ := hknows.shows hbuffer
  have hentries := bind_eq_ok.2 ⟨s, hheld, hshows.results_eq⟩
  have htells := Memory.tells_of_ofRows (hrows hgroup)
  rw [haggregate] at htells hentries
  generalize memories k = m at htells hentries
  cases htells with
  | @bestRow _ _ _ y ys champion values hys hchampion hvalues =>
    obtain ⟨v, hfirst⟩ := hchampion.firstBest hcomparable
    exact ⟨slot, hslot, buffer, champion, v, values, hbuffer, hfirst, hvalues, hentries⟩

end Table

/-! ## Tuples of groups -/

namespace Grouping

variable {g : Grouping} {order : GroupOrder} {ts : List (List Bytes)} {t : List Bytes} {k : Bytes}

theorem size_pos_of_some {buffer : Buffer} (h : g.groups[k]? = some buffer) : 0 < g.size := by
  rw [size, ← Std.TreeMap.length_keys]
  exact List.length_pos_of_mem (Std.TreeMap.mem_keys.2 (mem_of_some h))

/-- The tuple of a group is among those of all groups. -/
theorem mem_of_isGroup {buffer : Buffer} (h : List.Forall₂ (IsGroup g) ts (g.ordered order))
    (hlength : t.length = g.keys.length) (hcode : code t = .ok k)
    (hbuffer : g.groups[k]? = some buffer) : t ∈ ts := by
  have hentry : (k, buffer) ∈ g.ordered order := by
    refine List.mem_filterMap.2 ⟨k, ?_, by rw [hbuffer]; rfl⟩
    rw [(order.perm _).mem_iff, Std.TreeMap.mem_keys]
    exact mem_of_some hbuffer
  obtain ⟨u, hu, hulength, hucode, -⟩ := exists_of_forall₂ h.flip hentry
  rwa [code_inj (hlength.trans hulength.symm) hcode hucode]

end Grouping

namespace Table

variable {keys : List Key} {aggregates : List Aggregate} {order : GroupOrder} {width : Nat}
  {next table : Table} {notices : List Notice} {goal : Goal} {field : Nat}
  {carried : List CarriedField} {rows : List Row} {t : List Bytes} {k : Bytes} {stage : GroupStage}

/-- The row for a group shows its tuple, and what a slot prints for it. -/
theorem shows_of_handsOn (hfits : Fits stage.grouping.keys (aggregatesOf stage.bundle.slots) width)
    {slot : Slot} (hslot : slot ∈ stage.bundle.slots) {buffer : Buffer}
    (hbuffer : stage.grouping.groups[k]? = some buffer) {printed : List (Nat × Bytes)}
    (hprinted : slot.entries buffer = .ok printed) (hcode : code t = .ok k)
    {entry : Bytes × Buffer} {line : List Bytes} (h : stage.HandsOn width entry line) :
    ∃ u, IsGroup stage.grouping u entry ∧
      Shows line ((stage.grouping.keys.map Key.column).zip u) ∧ (u = t → Shows line printed) := by
  obtain ⟨entries, hrenders, rfl⟩ := h
  obtain ⟨u, hgroup, hkeys⟩ := hrenders.tuple
  have hnodup : (entries.map Prod.fst).Nodup := hrenders.columns_eq ▸ hfits.nodup
  have hlt : ∀ column ∈ entries.map Prod.fst, column < width := hrenders.columns_eq ▸ hfits.lt_width
  refine ⟨u, hgroup, shows_row hnodup hlt hkeys, ?_⟩
  rintro rfl
  obtain ⟨others, hothers, hsub⟩ := hrenders.slots slot hslot
  have hentry := hgroup.2.2
  rw [Except.ok.inj (hgroup.2.1.symm.trans hcode), hbuffer] at hentry
  rw [← Option.some.inj hentry, hprinted] at hothers
  cases hothers
  exact shows_row hnodup hlt hsub

/-- Finishing a stage that knows comparable rows of a group shows fields of the best of them. -/
theorem finish_firstBest [NumberReader] {requests : Nat}
    (h : stage.Follows keys aggregates width k rows requests)
    (hfits : Fits keys aggregates width) (hmem : .bestRow goal field carried ∈ aggregates)
    (hlength : t.length = keys.length) (hcode : code t = .ok k) (hne : members keys t rows ≠ [])
    (hcomparable : Comparable field (members keys t rows)) :
    ∃ champion v values ts lines,
      FirstBest goal field (members keys t rows) champion v ∧
      (carried.mapM fun c ↦ champion.field c.field) = .ok values ∧
      t ∈ ts ∧ ts.Nodup ∧
      List.Forall₂ (fun u line ↦ Shows line ((keys.map Key.column).zip u) ∧
        (u = t → Shows line ((carried.map CarriedField.column).zip values))) ts lines ∧
      ∀ next, ∃ stage' columns, (finish (.grouped stage (.blank width) next)).1 =
        (handOn lines next).map (.grouped stage' columns) := by
  rw [← Grouping.coded_eq_members hlength hcode] at hne hcomparable ⊢
  obtain ⟨slot, hslot, buffer, champion, v, values, hbuffer, hbest, hvalues, hprinted⟩ :=
    exists_firstBest h hmem hne hcomparable
  obtain ⟨hsecure, ⟨rfl, -, -⟩, rfl, -⟩ := h
  have hdata : ¬ (stage.grouping.keys = [] ∧ stage.grouping.size = 0) :=
    fun hnone ↦ (Grouping.size_pos_of_some hbuffer).ne' hnone.2
  obtain ⟨lines, hlines, hemit⟩ := emitGroups_renders hsecure hfits hdata
  obtain ⟨ts, hgroups, hshows⟩ := forall₂_between hlines fun _ _ hline ↦
    shows_of_handsOn hfits hslot hbuffer hprinted hcode hline
  refine ⟨champion, v, values, ts, lines, hbest, hvalues,
    Grouping.mem_of_isGroup hgroups hlength hcode hbuffer, Grouping.nodup_of_isGroup hgroups,
    hshows, fun next ↦ ?_⟩
  obtain ⟨columns, -, hemitted⟩ := hemit (.blank width) next (ready_blank _ _ width)
  obtain ⟨stage', hfinish⟩ := finish_of_emit hemitted
  exact ⟨stage', columns, hfinish⟩

/-- A stage shows fields of the best row of a group whose rows are all taken in, whatever
becomes of others; and they are taken in if each aggregate of the stage could take them in
alone. -/
theorem aggregating_firstBest [NumberReader]
    (hbuild : aggregating keys aggregates order width next = .ok (table, notices))
    (hfits : Fits keys aggregates width) (hmem : .bestRow goal field carried ∈ aggregates)
    (hne : members keys t rows ≠ []) (hcomparable : Comparable field (members keys t rows)) :
    let served := serveAll table (rows.map .push)
    let Taken := List.Forall₂ (fun row outcome ↦ tuple keys row = .ok t → outcome = .ok ()) rows
      served.2
    (Taken → ∃ champion v values ts lines,
      FirstBest goal field (members keys t rows) champion v ∧
      (carried.mapM fun c ↦ champion.field c.field) = .ok values ∧
      t ∈ ts ∧ ts.Nodup ∧
      List.Forall₂ (fun u line ↦ Shows line ((keys.map Key.column).zip u) ∧
        (u = t → Shows line ((carried.map CarriedField.column).zip values))) ts lines ∧
      ∃ stage columns, served.1.finish.1 = (handOn lines next).map (.grouped stage columns)) ∧
    ((∃ k, code t = .ok k) → rows.length < 1 <<< 32 →
      (∀ row ∈ members keys t rows,
        ∃ blob, carriedBlob carried row = .ok blob ∧ blob.length < 1 <<< 32) →
      (∀ other ∈ aggregates, other ≠ .bestRow goal field carried →
        ∃ p, lone other (members keys t rows) = .ok p) → Taken) := by
  intro served Taken
  obtain ⟨bundle, hfresh, hsame, rfl, -⟩ := aggregating_eq_ok hbuild
  have hroom : bundle.HasRoom := hasRoom_of_aggregating hbuild
  obtain rfl : aggregatesOf bundle.slots = aggregates := by
    rcases hsame with h | ⟨-, rfl⟩
    · exact h
    · cases hmem
  have hnew (k : Bytes) : GroupStage.Follows keys (aggregatesOf bundle.slots) width k [] 0
      ⟨.new keys, bundle, 0, order⟩ := follows_new hfresh hroom hfits k
  obtain ⟨first, hfirst⟩ := List.exists_mem_of_ne_nil _ hne
  have hlength : t.length = keys.length :=
    Grouping.length_of_tuple (Grouping.hasTuple_iff.1 (List.mem_filter.1 hfirst).2)
  constructor
  · intro htaken
    obtain ⟨k, hcode⟩ := exists_code_of_taken (GroupStage.intact_new hfresh keys 0 order) hne htaken
    obtain ⟨stage, hstate, -, hfollows⟩ := serveAll_follows (hnew k)
      (htaken.imp fun row outcome hrow hkey ↦ hrow ((Grouping.keyOf_iff hlength hcode).1 hkey))
    obtain ⟨champion, v, values, ts, lines, hbest, hvalues, ht, hnodup, hshows, hfinish⟩ :=
      finish_firstBest hfollows hfits hmem hlength hcode hne hcomparable
    have hserved : served.1 = .grouped stage (.blank width) next := hstate
    rw [hserved]
    exact ⟨champion, v, values, ts, lines, hbest, hvalues, ht, hnodup, hshows, hfinish next⟩
  · rintro ⟨k, hcode⟩ hfew hblobs hothers
    have hall : ∀ aggregate ∈ aggregatesOf bundle.slots,
        ∃ m, Memory.ofRows aggregate (coded keys ([] ++ rows) k) = .ok m := by
      intro aggregate haggregate
      rw [List.nil_append, Grouping.coded_eq_members hlength hcode]
      by_cases heq : aggregate = .bestRow goal field carried
      · rw [heq]
        exact Memory.exists_ofRows_bestRow hne hcomparable.exists_number hblobs
      · exact exists_lone_iff.1 (hothers aggregate haggregate heq)
    refine (serveAll_accepted (hnew k) hall (by simpa using hfew)).imp ?_
    exact fun row outcome hrow htuple ↦ hrow ((Grouping.keyOf_iff hlength hcode).2 htuple)

open Standard

/-- An integer, then twice the same double, and rows of another group between them, of which
one is refused. -/
theorem aggregating_firstBest_mixed :
    let rows : List Row := [.ofFields [[97], [50], [120, 120]], .ofFields [[98], [113], [121]],
      .ofFields [[97], [50, 46, 53], [122]], .ofFields [[98], [55], [119, 119, 119]],
      .ofFields [[97], [50, 46, 53], [118]]]
    let aggregate : Aggregate := .bestRow .highest 1 [⟨2, 1⟩]
    let t : List Bytes := [[97]]
    let table := grouping [⟨0, 0⟩] (.single aggregate) .sorted 2 (.recorder #[])
    let served := serveAll table (rows.map .push)
    served.2 = [.ok (), .error (.notANumber [113]), .ok (), .ok (), .ok ()] ∧
      ∃ champion v values ts lines, FirstBest .highest 1 (members [⟨0, 0⟩] t rows) champion v ∧
        ([⟨2, 1⟩].mapM fun c : CarriedField ↦ champion.field c.field) = .ok values ∧
        t ∈ ts ∧ List.Forall₂ (fun u line ↦ u = t → Shows line ([1].zip values)) ts lines ∧
        ∃ stage columns, served.1.finish.1 =
          (handOn lines (.recorder #[])).map (.grouped stage columns) := by
  intro rows aggregate t table served
  have hfits : Fits [⟨0, 0⟩] [aggregate] 2 := ⟨by decide, by decide⟩
  have hmem : aggregate ∈ [aggregate] := List.mem_singleton_self aggregate
  have hgroup : members [⟨0, 0⟩] t rows = [.ofFields [[97], [50], [120, 120]],
      .ofFields [[97], [50, 46, 53], [122]], .ofFields [[97], [50, 46, 53], [118]]] := by rfl
  have hdouble : ∀ rest ∈ ([[122], [118]] : List Bytes),
      Aggregator.number (.ofFields [[97], [50, 46, 53], rest]) 1 =
        .ok (.float (.finite false (5 <<< 1073))) := by decide +kernel
  have hcomparable : Comparable 1 (members [⟨0, 0⟩] t rows) := by
    rw [hgroup]
    right
    simp only [List.forall_mem_cons]
    refine ⟨.inr ⟨2, by decide, by decide⟩, .inl ⟨_, hdouble [122] (by decide), nofun⟩,
      .inl ⟨_, hdouble [118] (by decide), nofun⟩, List.forall_mem_nil _⟩
  have hbuild : aggregating [⟨0, 0⟩] [aggregate] .sorted 2 (.recorder #[]) = .ok (table, []) := rfl
  have hne : members [⟨0, 0⟩] t rows ≠ [] := hgroup ▸ List.cons_ne_nil _ _
  have hblobs : ∀ row ∈ members [⟨0, 0⟩] t rows,
      ∃ blob, carriedBlob [⟨2, 1⟩] row = .ok blob ∧ blob.length < 1 <<< 32 := by
    rw [hgroup]
    simp only [List.forall_mem_cons]
    exact ⟨⟨[120, 120], by decide, by decide⟩, ⟨[122], by decide, by decide⟩,
      ⟨[118], by decide, by decide⟩, List.forall_mem_nil _⟩
  obtain ⟨hshown, htaken⟩ := aggregating_firstBest hbuild hfits hmem hne hcomparable
  obtain ⟨champion, v, values, ts, lines, hbest, hvalues, ht, -, hshows, hfinish⟩ :=
    hshown (htaken ⟨_, rfl⟩ (by decide) hblobs fun other hother hneq ↦
      absurd (List.mem_singleton.1 hother) hneq)
  exact ⟨by decide +kernel, champion, v, values, ts, lines, hbest, hvalues, ht,
    hshows.imp fun _ _ hline ↦ hline.2, hfinish⟩

end Table

end Rollup
