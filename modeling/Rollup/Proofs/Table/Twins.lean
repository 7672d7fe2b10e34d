import Rollup.Proofs.Table.Intact

/-!
# Stages that cannot be told apart

Two stages are twins if their slots show the same memories of the same groups, whatever
else stands in the arenas and sets that the groups share (`GroupStage.Twin`).  Twins take
in and refuse the same rows, stay twins (`twin_after`), and render the same
(`emitGroups_twin`).

They can be told apart in one way only, which is to use up numbers or handles: there are
2³² of each, and the first stage may have used more of them than its twin.
-/

namespace Rollup

open Outcome Aggregator Rollup.Bundle
open Grouping (Knows place)

/-- The error says that there are no numbers of groups or no handles left. -/
def Error.IsExhaustion (e : Error) : Prop :=
  e = .defect .groupsExhausted ∨ e = .defect .handlesExhausted

theorem Aggregator.Exhausted.isExhaustion {a : Aggregator} {e : Error} (h : Exhausted a e) :
    e.IsExhaustion := by
  cases h with
  | groups => exact .inl rfl
  | handles => exact .inr rfl

/-! ## Slots -/

/-- It takes many requests to use up numbers or handles. -/
theorem Slot.Intact.le_of_exhausted {slot : Slot} {groups : Std.TreeMap Bytes Buffer}
    {requests : Nat} {e : Error} (h : slot.Intact groups requests)
    (hexhausted : Exhausted slot.aggregator e) : 1 <<< 32 ≤ requests + 1 := by
  obtain ⟨hgroups, hhandles⟩ := h.drawn_le
  cases hexhausted with
  | groups hle => exact hle.trans (Nat.succ_le_succ hgroups)
  | handles hle => exact hle.trans (Nat.le_succ_of_le hhandles)

/-- The slots know the same, and the second has used no more numbers and handles. -/
structure Slot.Twin (groups groups' : Std.TreeMap Bytes Buffer) (slot twin : Slot) : Prop where
  place_eq : place twin = place slot
  knows : ∃ memories, Knows slot groups memories ∧ Knows twin groups' memories
  drawn_le : twin.aggregator.drawn ≤ slot.aggregator.drawn

namespace Slot.Twin

variable {groups groups' : Std.TreeMap Bytes Buffer} {slot twin slot' twin' : Slot} {k : Bytes}
  {row : Row} {old old' new new' : Buffer} {outcome : Except Error Unit} {requests : Nat}

theorem aggregate_eq (h : slot.Twin groups groups' twin) :
    twin.aggregator.aggregate = slot.aggregator.aggregate := congrArg Prod.fst h.place_eq

theorem offset_eq (h : slot.Twin groups groups' twin) : twin.offset = slot.offset :=
  congrArg (·.2.1) h.place_eq

theorem size_eq (h : slot.Twin groups groups' twin) : twin.size = slot.size :=
  congrArg (·.2.2) h.place_eq

theorem insert_of_held_eq (h : slot.Twin groups groups' twin) (hk : groups[k]? = some old)
    (hk' : groups'[k]? = some old') (hheld : slot.held new = slot.held old)
    (hheld' : twin.held new' = twin.held old') :
    slot.Twin (groups.insert k new) (groups'.insert k new') twin := by
  obtain ⟨memories, hknows, hknows'⟩ := h.knows
  exact ⟨h.place_eq,
    ⟨memories, hknows.insert_of_held_eq hk hheld, hknows'.insert_of_held_eq hk' hheld'⟩, h.drawn_le⟩

theorem clear (h : slot.Twin groups groups' twin) : slot.Twin ∅ ∅ twin := by
  obtain ⟨memories, hknows, hknows'⟩ := h.knows
  exact ⟨h.place_eq, ⟨memories, hknows.clear memories, hknows'.clear memories⟩, h.drawn_le⟩

/-! ### What twins do -/

variable [NumberReader]

/-- Twins begin a group alike, unless the first has used up its numbers or handles. -/
theorem startSlot_outcome (h : slot.Twin groups groups' twin) (hslot : slot.Intact groups requests)
    (hcapacity : old.capacity = old'.capacity) (row : Row) :
    (∃ e, (startSlot slot row old).outcome = .error e ∧
        e.IsExhaustion ∧ 1 <<< 32 ≤ requests + 1) ∨
      (startSlot slot row old).outcome = (startSlot twin row old').outcome := by
  rcases verdict_start h.aggregate_eq h.drawn_le row with ⟨e, herror, hexhausted⟩ | hverdict
  · refine .inl ⟨e, ?_, hexhausted.isExhaustion, hslot.le_of_exhausted hexhausted⟩
    rw [startSlot_of_error herror]
    rfl
  · right
    cases hstart : (slot.aggregator.start row).2 with
    | error e =>
      rw [hstart] at hverdict
      rw [startSlot_of_error hstart, startSlot_of_error (verdict_eq_error.1 hverdict.symm)]
      rfl
    | ok s =>
      rw [hstart] at hverdict
      obtain ⟨t, hstart'⟩ := verdict_eq_ok.1 hverdict.symm
      rw [startSlot_of_ok hstart, startSlot_of_ok hstart', Step.ofExcept_outcome,
        Step.ofExcept_outcome, verdict_map, verdict_map, start_aggregate, start_aggregate,
        h.aggregate_eq, h.offset_eq, h.size_eq]
      exact Buffer.verdict_write hcapacity _ _ _ _ _

/-- Twins take in a further row of a group alike. -/
theorem absorbSlot_outcome (h : slot.Twin groups groups' twin) (hold : groups[k]? = some old)
    (hold' : groups'[k]? = some old') (row : Row) :
    (absorbSlot slot row old).outcome = (absorbSlot twin row old').outcome := by
  obtain ⟨memories, hknows, hknows'⟩ := h.knows
  rw [hknows.absorbSlot_outcome hold, hknows'.absorbSlot_outcome hold', h.aggregate_eq]

theorem insert_of_begins (h : slot.Twin groups groups' twin)
    (hshared : Shared (Begins row (.ok ())) old new slot slot')
    (hshared' : Shared (Begins row (.ok ())) old' new' twin twin') (k : Bytes) :
    slot'.Twin (groups.insert k new) (groups'.insert k new') twin' := by
  obtain ⟨memories, hknows, hknows'⟩ := h.knows
  obtain ⟨m, hm, hnew⟩ := hknows.insert_of_begins hshared
  obtain ⟨m', hm', hnew'⟩ := hknows'.insert_of_begins hshared'
  rw [h.aggregate_eq] at hm'
  cases hm.symm.trans hm'
  refine ⟨?_, ⟨_, hnew, hnew'⟩, ?_⟩
  · rw [Grouping.place_of_begins hshared, Grouping.place_of_begins hshared', h.place_eq]
  · rw [hshared.did.1, hshared'.did.1]
    exact drawn_start_mono h.aggregate_eq h.drawn_le row

theorem of_begins (h : slot.Twin groups groups' twin)
    (hshared : Shared (Begins row outcome) old new slot slot')
    (hshared' : Shared (Begins row outcome) old' new' twin twin') :
    slot'.Twin groups groups' twin' := by
  obtain ⟨memories, hknows, hknows'⟩ := h.knows
  refine ⟨?_, ⟨memories, hknows.of_begins hshared, hknows'.of_begins hshared'⟩, ?_⟩
  · rw [Grouping.place_of_begins hshared, Grouping.place_of_begins hshared', h.place_eq]
  · rw [hshared.did.1, hshared'.did.1]
    exact drawn_start_mono h.aggregate_eq h.drawn_le row

theorem insert_of_continues (h : slot.Twin groups groups' twin) (hk : groups[k]? = some old)
    (hk' : groups'[k]? = some old') (hshared : Shared (Continues row outcome) old new slot slot')
    (hshared' : Shared (Continues row outcome) old' new' twin twin') :
    slot'.Twin (groups.insert k new) (groups'.insert k new') twin' := by
  obtain ⟨memories, hknows, hknows'⟩ := h.knows
  have hnew := (hknows.insert_of_continues hk hshared).2
  have hnew' := (hknows'.insert_of_continues hk' hshared').2
  rw [h.aggregate_eq] at hnew'
  refine ⟨?_, ⟨_, hnew, hnew'⟩, ?_⟩
  · rw [Grouping.place_of_continues hshared, Grouping.place_of_continues hshared', h.place_eq]
  · rw [eq_of_continues drawn_absorb hshared, eq_of_continues drawn_absorb hshared']
    exact h.drawn_le

end Slot.Twin

/-! ## Stages -/

/-- The stages have the same groups, and the slots know the same of them. -/
structure GroupStage.Twin (stage twin : GroupStage) : Prop where
  keys_eq : twin.grouping.keys = stage.grouping.keys
  order_eq : twin.order = stage.order
  capacity_eq : twin.bundle.capacity = stage.bundle.capacity
  mem_iff : ∀ k, k ∈ stage.grouping.groups ↔ k ∈ twin.grouping.groups
  slots : List.Forall₂ (Slot.Twin stage.grouping.groups twin.grouping.groups) stage.bundle.slots
    twin.bundle.slots

namespace GroupStage

variable {stage twin : GroupStage} {keys : List Key} {requests requests' : Nat} {row : Row}
  {k : Bytes}

theorem Twin.mem_insert_iff (h : stage.Twin twin) (k : Bytes) (new new' : Buffer) (k' : Bytes) :
    k' ∈ stage.grouping.groups.insert k new ↔ k' ∈ twin.grouping.groups.insert k new' := by
  rw [Std.TreeMap.mem_insert, Std.TreeMap.mem_insert, h.mem_iff]

theorem Twin.isSome_eq (h : stage.Twin twin) (k : Bytes) :
    stage.grouping.groups[k]?.isSome = twin.grouping.groups[k]?.isSome := by
  rw [Bool.eq_iff_iff, ← Std.TreeMap.mem_iff_isSome_getElem?, ← Std.TreeMap.mem_iff_isSome_getElem?,
    h.mem_iff]

/-- Twins without groups are twins. -/
theorem twin_clear (h : stage.Twin twin) :
    GroupStage.Twin { stage with grouping := stage.grouping.clear }
      { twin with grouping := twin.grouping.clear } where
  keys_eq := h.keys_eq
  order_eq := h.order_eq
  capacity_eq := h.capacity_eq
  mem_iff _ := Iff.rfl
  slots := h.slots.imp fun _ _ ht ↦ ht.clear

variable [NumberReader]

section Slots

variable {old old' new new' : Buffer} {outcome outcome' : Except Error Unit}
  {slots' twins' : List Slot}

/-- A further row of a group goes through the slots of twins alike. -/
theorem Twin.slots_of_continues (h : stage.Twin twin) (hold : stage.grouping.groups[k]? = some old)
    (hold' : twin.grouping.groups[k]? = some old')
    (hgoes : Goes absorbSlot row (Continues row) old new outcome stage.bundle.slots slots')
    (hgoes' : Goes absorbSlot row (Continues row) old' new' outcome' twin.bundle.slots twins') :
    outcome = outcome' ∧ List.Forall₂ (Slot.Twin (stage.grouping.groups.insert k new)
      (twin.grouping.groups.insert k new')) slots' twins' := by
  have hmeet := hgoes.meet (p := fun _ ↦ False)
    (q := Slot.Twin (stage.grouping.groups.insert k new) (twin.grouping.groups.insert k new'))
    hgoes' h.slots (fun _ _ ht ↦ .inr (ht.absorbSlot_outcome hold hold' row))
    (fun _ _ _ _ _ _ ht hshared hshared' ↦ ht.insert_of_continues hold hold' hshared hshared')
    fun _ _ _ ht hheld hheld' ↦ ht.insert_of_held_eq hold hold' hheld hheld'
  exact hmeet.resolve_left fun ⟨_, _, hfalse⟩ ↦ hfalse

/-- The first row of a group goes through the slots of twins alike, unless the first stage
has used up its numbers or handles.  What the slots know afterwards depends on whether the
group comes into being. -/
theorem Twin.slots_of_begins (h : stage.Twin twin) (hintact : stage.Intact keys requests)
    (hgoes : Goes startSlot row (Begins row) (.blank stage.bundle.capacity) new outcome
      stage.bundle.slots slots')
    (hgoes' : Goes startSlot row (Begins row) (.blank twin.bundle.capacity) new' outcome'
      twin.bundle.slots twins') (k : Bytes) :
    (∃ e, outcome = .error e ∧ e.IsExhaustion ∧ 1 <<< 32 ≤ requests + 1) ∨
      outcome = outcome' ∧ List.Forall₂ (fun slot t ↦
        (outcome = .ok () → slot.Twin (stage.grouping.groups.insert k new)
          (twin.grouping.groups.insert k new') t) ∧
        (outcome ≠ .ok () → slot.Twin stage.grouping.groups twin.grouping.groups t))
          slots' twins' := by
  have hslots : List.Forall₂ (fun slot t ↦ slot.Intact stage.grouping.groups requests ∧
      slot.Twin stage.grouping.groups twin.grouping.groups t) stage.bundle.slots
        twin.bundle.slots := (List.forall₂_and_left ..).2 ⟨hintact.slots, h.slots⟩
  refine hgoes.meet hgoes' hslots
    (fun _ _ ht ↦ ht.2.startSlot_outcome ht.1 h.capacity_eq.symm row)
    (fun o _ _ _ _ ho ht hshared hshared' ↦ ⟨fun hok ↦ ?_, fun _ ↦ ?_⟩)
    fun hrefused _ _ ht _ _ ↦ ⟨fun hok ↦ absurd hok hrefused, fun _ ↦ ht.2⟩
  · cases ho hok
    exact ht.2.insert_of_begins hshared hshared' k
  · exact ht.2.of_begins hshared hshared'

end Slots

/-- Twins take in and refuse the same rows, and stay twins. -/
theorem twin_after (h : stage.Twin twin) (hintact : stage.Intact keys requests)
    (hintact' : twin.Intact keys requests') (row : Row) :
    (∃ e, (stage.grouping.push stage.bundle row).outcome = .error e ∧
        e.IsExhaustion ∧ 1 <<< 32 ≤ requests + 1) ∨
      (stage.grouping.push stage.bundle row).outcome =
          (twin.grouping.push twin.bundle row).outcome ∧
        (stage.after row).Twin (twin.after row) := by
  cases hkey : Grouping.keyOf stage.grouping.keys row with
  | error e =>
    have hkey' : Grouping.keyOf twin.grouping.keys row = .error e := h.keys_eq ▸ hkey
    rw [after_of_keyOf_error hkey, after_of_keyOf_error hkey', Grouping.push_of_keyOf_error hkey,
      Grouping.push_of_keyOf_error hkey']
    exact .inr ⟨rfl, h.keys_eq, h.order_eq, h.capacity_eq, h.mem_iff, h.slots⟩
  | ok k =>
    have hkey' : Grouping.keyOf twin.grouping.keys row = .ok k := h.keys_eq ▸ hkey
    have hsome := h.isSome_eq k
    obtain ⟨new, slots', hcase⟩ := Grouping.push_goes hintact.placed hkey
    obtain ⟨new', twins', hcase'⟩ := Grouping.push_goes hintact'.placed hkey'
    rcases hcase with ⟨old, hold, -, hgoes, hstate⟩ | ⟨hnone, -, hgoes, hend⟩ <;>
      rcases hcase' with ⟨old', hold', -, hgoes', hstate'⟩ | ⟨hnone', -, hgoes', hend'⟩
    · obtain ⟨houtcome, hslots⟩ := h.slots_of_continues hold hold' hgoes hgoes'
      rw [after_of_state hstate, after_of_state hstate']
      exact .inr ⟨houtcome, h.keys_eq, h.order_eq, h.capacity_eq,
        h.mem_insert_iff k new new', hslots⟩
    · rw [hold, hnone'] at hsome
      cases hsome
    · rw [hnone, hold'] at hsome
      cases hsome
    · refine (h.slots_of_begins hintact hgoes hgoes' k).imp_right
        fun ⟨houtcome, hslots⟩ ↦ ⟨houtcome, ?_⟩
      rw [houtcome] at hend hslots
      obtain ⟨hok, hstate⟩ | ⟨⟨e, he⟩, hstate⟩ := hend <;>
        obtain ⟨hok', hstate'⟩ | ⟨⟨e', he'⟩, hstate'⟩ := hend'
      · rw [after_of_state hstate, after_of_state hstate']
        exact ⟨h.keys_eq, h.order_eq, h.capacity_eq, h.mem_insert_iff k new new',
          hslots.imp fun _ _ ht ↦ ht.1 hok⟩
      · cases hok.symm.trans he'
      · cases he.symm.trans hok'
      · rw [after_of_state hstate, after_of_state hstate']
        exact ⟨h.keys_eq, h.order_eq, h.capacity_eq, h.mem_iff,
          hslots.imp fun _ _ ht ↦ ht.2 fun hok ↦ by cases he.symm.trans hok⟩

end GroupStage

/-! ## Rendering -/

/-- Slots of the same kind print the same for a group of which they remember the same. -/
theorem Grouping.entries_eq {slot twin : Slot} {groups groups' : Std.TreeMap Bytes Buffer}
    {memories memories' : Bytes → Memory} {k : Bytes} {buffer buffer' : Buffer}
    (haggregate : twin.aggregator.aggregate = slot.aggregator.aggregate)
    (h : Knows slot groups memories) (h' : Knows twin groups' memories')
    (hsame : memories' k = memories k) (hk : groups[k]? = some buffer)
    (hk' : groups'[k]? = some buffer') : slot.entries buffer = twin.entries buffer' := by
  obtain ⟨s, hs, hshows⟩ := h.shows hk
  obtain ⟨t, ht, hshows'⟩ := h'.shows hk'
  rw [Slot.entries, Slot.entries, hs, ht, ok_bind, ok_bind, hshows.results_eq, hshows'.results_eq,
    haggregate, hsame]

theorem Bundle.print_congr {bundle bundle' : Bundle} {buffer buffer' : Buffer}
    (h : List.Forall₂ (fun slot twin ↦ slot.entries buffer = twin.entries buffer') bundle.slots
      bundle'.slots) (columns : Columns) :
    bundle.print buffer columns = bundle'.print buffer' columns := by
  rw [print_eq, print_eq]
  refine Step.each_congr₂ (h.imp fun slot twin hentries columns ↦ ?_) columns
  rw [hentries]

theorem Grouping.fill_congr {g g' : Grouping} {bundle bundle' : Bundle} {k : Bytes}
    {buffer buffer' : Buffer} (hkeys : g'.keys = g.keys)
    (h : List.Forall₂ (fun slot twin ↦ slot.entries buffer = twin.entries buffer') bundle.slots
      bundle'.slots) (columns : Columns) :
    g.fill bundle columns (k, buffer) = g'.fill bundle' columns (k, buffer') := by
  rw [fill, fill, hkeys]
  cases keyColumns g.keys k with
  | error e => rfl
  | ok entries => exact congrArg (columns.putAll entries).andThen (funext (print_congr h))

/-- The same groups are rendered in the same order. -/
theorem Grouping.keys_congr {groups groups' : Std.TreeMap Bytes Buffer}
    (h : ∀ k, k ∈ groups ↔ k ∈ groups') : groups.keys = groups'.keys := by
  have hperm : groups.keys.Perm groups'.keys :=
    (List.perm_ext_iff_of_nodup Std.TreeMap.nodup_keys Std.TreeMap.nodup_keys).2 fun k ↦ by
      rw [Std.TreeMap.mem_keys, Std.TreeMap.mem_keys, h]
  refine hperm.eq_of_pairwise (fun a b _ _ hab hba ↦ ?_) Std.TreeMap.ordered_keys
    Std.TreeMap.ordered_keys
  cases (Std.OrientedCmp.gt_of_lt hab).symm.trans hba

namespace GroupStage

variable {stage twin : GroupStage}

/-- The entries are those of one group in two stages. -/
def OfGroup (stage twin : GroupStage) (entry entry' : Bytes × Buffer) : Prop :=
  entry'.1 = entry.1 ∧ stage.grouping.groups[entry.1]? = some entry.2 ∧
    twin.grouping.groups[entry.1]? = some entry'.2

theorem Twin.ordered (h : stage.Twin twin) :
    List.Forall₂ (OfGroup stage twin) (stage.grouping.ordered stage.order)
      (twin.grouping.ordered twin.order) := by
  rw [Grouping.ordered, Grouping.ordered, h.order_eq, ← Grouping.keys_congr h.mem_iff]
  induction stage.order.arrange stage.grouping.groups.keys with
  | nil => exact .nil
  | cons k ks ih =>
    have hsome := h.isSome_eq k
    cases hk : stage.grouping.groups[k]? with
    | none =>
      rw [hk] at hsome
      have hk' := Option.isNone_iff_eq_none.1 (Option.isSome_eq_false_iff.1 hsome.symm)
      rwa [List.filterMap_cons_none (by rw [hk]; rfl),
        List.filterMap_cons_none (by rw [hk']; rfl)]
    | some buffer =>
      rw [hk] at hsome
      obtain ⟨buffer', hk'⟩ := Option.isSome_iff_exists.1 hsome.symm
      rw [List.filterMap_cons_some (by rw [hk]; rfl), List.filterMap_cons_some (by rw [hk']; rfl)]
      exact .cons ⟨rfl, hk, hk'⟩ ih

theorem Twin.fill_eq (h : stage.Twin twin) {entry entry' : Bytes × Buffer}
    (hentry : OfGroup stage twin entry entry') (columns : Columns) :
    stage.grouping.fill stage.bundle columns entry =
      twin.grouping.fill twin.bundle columns entry' := by
  obtain ⟨k, buffer⟩ := entry
  obtain ⟨_, buffer'⟩ := entry'
  obtain ⟨rfl, hk, hk'⟩ := hentry
  refine Grouping.fill_congr h.keys_eq (h.slots.imp fun slot t ht ↦ ?_) columns
  obtain ⟨memories, hknows, hknows'⟩ := ht.knows
  exact Grouping.entries_eq ht.aggregate_eq hknows hknows' rfl hk hk'

end GroupStage

variable [NumberReader]

namespace Table

variable {stage twin : GroupStage} {keys : List Key} {requests requests' : Nat}

/-- Twins render the same. -/
theorem emitGroups_twin (h : stage.Twin twin) (columns : Columns) (next : Table) :
    emitGroups stage columns next = emitGroups twin columns next := by
  have hsize : stage.grouping.size = twin.grouping.size := by
    rw [Grouping.size, Grouping.size, ← Std.TreeMap.length_keys, ← Std.TreeMap.length_keys,
      Grouping.keys_congr h.mem_iff]
  rw [emitGroups, emitGroups, h.keys_eq, hsize]
  split
  · rfl
  · refine Step.each_congr₂ (h.ordered.imp fun entry entry' hentry state ↦ ?_) _
    rw [emitGroup, emitGroup, h.fill_eq hentry]

/-! ## Requests -/

end Table

end Rollup
