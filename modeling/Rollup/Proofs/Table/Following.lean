import Mathlib.Data.List.Induction
import Rollup.Proofs.Table.Secure
import Rollup.Proofs.Table.Twins

/-!
# One group among others

Rows of some groups may be refused while those of another are all taken in.  What the slots
remember of the former may differ, but of the latter it is what its rows lead to: all rows it has
been given (`GroupStage.Follows`, `Follows.after`).

A row is taken in among others if it would be taken in alone (`Follows.accepted`), unless the
handles or numbers are used up.
-/

namespace Rollup

open Outcome Aggregator Rollup.Bundle

open Grouping (Knows keyOf coded aggregatesOf)

/-- What is remembered of some rows, is remembered of the first of them. -/
theorem Memory.ofRows_of_prefix [NumberReader] {aggregate : Aggregate} {rows front : List Row}
    (hne : front ≠ []) (hle : front <+: rows) (h : ∃ m, ofRows aggregate rows = .ok m) :
    ∃ m, ofRows aggregate front = .ok m := by
  obtain ⟨behind, rfl⟩ := hle
  induction behind using List.reverseRecOn with
  | nil => rwa [List.append_nil] at h
  | append_singleton behind row ih =>
    rw [← List.append_assoc] at h
    obtain ⟨m', hm'⟩ := h
    obtain ⟨m, hm, -⟩ :=
      absorb_of_ofRows_snoc (List.append_ne_nil_of_left_ne_nil hne behind) hm'
    exact ih ⟨m, hm⟩

/-- The slot remembers these rows of the group with the code `k`, if there are any. -/
structure Slot.Follows [NumberReader] (k : Bytes) (rows : List Row)
    (groups : Std.TreeMap Bytes Buffer) (slot : Slot) : Prop where
  mem_iff : k ∈ groups ↔ rows ≠ []
  knows : ∃ memories, Knows slot groups memories ∧
    (k ∈ groups → Memory.ofRows slot.aggregator.aggregate rows = .ok (memories k))

/-- All slots of the stage remember all rows of the group with the code `k`, whatever they
remember of the others. -/
structure GroupStage.Follows [NumberReader] (keys : List Key) (aggregates : List Aggregate)
    (width : Nat) (k : Bytes) (rows : List Row) (requests : Nat) (stage : GroupStage) : Prop where
  secure : stage.Secure width
  intact : stage.Intact keys requests
  aggregates_eq : aggregatesOf stage.bundle.slots = aggregates
  slots : ∀ slot ∈ stage.bundle.slots, slot.Follows k (coded keys rows k) stage.grouping.groups

theorem Grouping.coded_snoc_of_error {keys : List Key} {row : Row} {e : Error}
    (h : keyOf keys row = .error e) (rows : List Row) (k : Bytes) :
    coded keys (rows ++ [row]) k = coded keys rows k := by
  have hother : ¬ hasCode keys k row = true := by
    rw [hasCode_iff, h]
    exact nofun
  rw [coded, List.filter_append, List.filter_cons_of_neg hother]
  exact List.append_nil _

variable [NumberReader]

namespace Slot.Follows

variable {slot slot' : Slot} {groups : Std.TreeMap Bytes Buffer} {k k' : Bytes} {rows : List Row}
  {row : Row} {old new : Buffer} {outcome : Except Error Unit}

theorem eq_nil_of_none (h : slot.Follows k rows groups) (hk : groups[k]? = none) : rows = [] := by
  by_contra hne
  have hmem := h.mem_iff.2 hne
  rw [Std.TreeMap.mem_iff_isSome_getElem?, hk] at hmem
  cases hmem

/-- A row that begins another group makes no difference. -/
theorem insert_of_begins_ne (h : slot.Follows k rows groups) (hne : k ≠ k')
    (hshared : Shared (Begins row (.ok ())) old new slot slot') :
    slot'.Follows k rows (groups.insert k' new) := by
  have hmem : k ∈ groups.insert k' new ↔ k ∈ groups :=
    Grouping.mem_insert_iff.trans (or_iff_right (Ne.symm hne))
  obtain ⟨memories, hknows, hrows⟩ := h.knows
  obtain ⟨m, -, hknows'⟩ := hknows.insert_of_begins hshared
  refine ⟨hmem.trans h.mem_iff, _, hknows', fun hk ↦ ?_⟩
  rw [aggregate_of_begins hshared, Function.update_of_ne hne]
  exact hrows (hmem.1 hk)

/-- The row that begins the group is remembered. -/
theorem insert_of_begins (h : slot.Follows k rows groups) (hk : groups[k]? = none)
    (hshared : Shared (Begins row (.ok ())) old new slot slot') :
    slot'.Follows k (rows ++ [row]) (groups.insert k new) := by
  obtain rfl := h.eq_nil_of_none hk
  obtain ⟨memories, hknows, -⟩ := h.knows
  obtain ⟨m, hm, hknows'⟩ := hknows.insert_of_begins hshared
  refine ⟨by simp, _, hknows', fun _ ↦ ?_⟩
  rw [aggregate_of_begins hshared, Function.update_self, List.nil_append, Memory.ofRows_singleton]
  exact hm

theorem of_begins (h : slot.Follows k rows groups)
    (hshared : Shared (Begins row outcome) old new slot slot') : slot'.Follows k rows groups := by
  obtain ⟨memories, hknows, hrows⟩ := h.knows
  refine ⟨h.mem_iff, memories, hknows.of_begins hshared, fun hk ↦ ?_⟩
  rw [aggregate_of_begins hshared]
  exact hrows hk

/-- A further row of another group, refused or not, makes no difference. -/
theorem insert_of_continues_ne (h : slot.Follows k rows groups) (hold : groups[k']? = some old)
    (hne : k ≠ k') (hshared : Shared (Continues row outcome) old new slot slot') :
    slot'.Follows k rows (groups.insert k' new) := by
  have hmem : k ∈ groups.insert k' new ↔ k ∈ groups := Grouping.mem_insert_of_some hold
  obtain ⟨memories, hknows, hrows⟩ := h.knows
  refine ⟨hmem.trans h.mem_iff, _, (hknows.insert_of_continues hold hshared).2, fun hk ↦ ?_⟩
  rw [eq_of_continues absorb_aggregate hshared, Function.update_of_ne hne]
  exact hrows (hmem.1 hk)

/-- A further row of the group that is taken in is remembered. -/
theorem insert_of_continues (h : slot.Follows k rows groups) (hold : groups[k]? = some old)
    (hshared : Shared (Continues row (.ok ())) old new slot slot') :
    slot'.Follows k (rows ++ [row]) (groups.insert k new) := by
  obtain ⟨memories, hknows, hrows⟩ := h.knows
  have hm := hrows (Grouping.mem_of_some hold)
  obtain ⟨houtcome, hknows'⟩ := hknows.insert_of_continues hold hshared
  refine ⟨by simp, _, hknows', fun _ ↦ ?_⟩
  rw [eq_of_continues absorb_aggregate hshared, Function.update_self]
  exact Memory.ofRows_snoc_of_done (Memory.ne_nil_of_ofRows hm) hm
    (Step.eq_done_of_ok houtcome.symm)

theorem insert_of_held_eq (h : slot.Follows k rows groups) (hold : groups[k']? = some old)
    (hheld : slot.held new = slot.held old) : slot.Follows k rows (groups.insert k' new) := by
  have hmem : k ∈ groups.insert k' new ↔ k ∈ groups := Grouping.mem_insert_of_some hold
  obtain ⟨memories, hknows, hrows⟩ := h.knows
  exact ⟨hmem.trans h.mem_iff, memories, hknows.insert_of_held_eq hold hheld,
    fun hk ↦ hrows (hmem.1 hk)⟩

end Slot.Follows

namespace GroupStage

variable {stage : GroupStage} {keys : List Key} {aggregates : List Aggregate} {width requests : Nat}
  {k : Bytes} {rows : List Row} {row : Row}

/-- A row of the group that is taken in is remembered, and rows of other groups make no
difference, whether or not they are refused. -/
theorem follows_slots (hplaced : WellPlaced stage.bundle.slots)
    (hkeys : stage.grouping.keys = keys)
    (h : ∀ slot ∈ stage.bundle.slots, slot.Follows k (coded keys rows k) stage.grouping.groups)
    (hok : keyOf keys row = .ok k → (stage.grouping.push stage.bundle row).outcome = .ok ()) :
    ∀ slot ∈ (stage.after row).bundle.slots,
      slot.Follows k (coded keys (rows ++ [row]) k) (stage.after row).grouping.groups := by
  subst hkeys
  cases hkey : keyOf stage.grouping.keys row with
  | error e =>
    rw [after_of_keyOf_error hkey, Grouping.coded_snoc_of_error hkey]
    exact h
  | ok k' =>
    obtain ⟨new, slots', ⟨old, hold, -, hgoes, hstate⟩ | ⟨hnone, -, hgoes, hend⟩⟩ :=
      Grouping.push_goes hplaced hkey
    · rw [after_of_state hstate]
      by_cases heq : k = k'
      · subst heq
        rw [hok hkey] at hgoes
        rw [Grouping.coded_snoc_self hkey]
        exact hgoes.forall_mem h (fun _ _ _ ho hslot hshared ↦
          hslot.insert_of_continues hold (ho rfl ▸ hshared)) fun hrefused ↦ absurd rfl hrefused
      · rw [Grouping.coded_snoc_of_ne hkey heq]
        exact hgoes.forall_mem h (fun _ _ _ _ hslot ↦ hslot.insert_of_continues_ne hold heq)
          fun _ _ hslot ↦ hslot.insert_of_held_eq hold
    · rcases hend with ⟨hdone, hstate⟩ | ⟨⟨e, he⟩, hstate⟩ <;> rw [after_of_state hstate]
      · rw [hdone] at hgoes
        by_cases heq : k = k'
        · subst heq
          rw [Grouping.coded_snoc_self hkey]
          exact hgoes.forall_mem h (fun _ _ _ ho hslot hshared ↦
            hslot.insert_of_begins hnone (ho rfl ▸ hshared)) fun hrefused ↦ absurd rfl hrefused
        · rw [Grouping.coded_snoc_of_ne hkey heq]
          exact hgoes.forall_mem h (fun _ _ _ ho hslot hshared ↦
            hslot.insert_of_begins_ne heq (ho rfl ▸ hshared)) fun hrefused ↦ absurd rfl hrefused
      · have heq : k ≠ k' := by
          rintro rfl
          cases he.symm.trans (hok hkey)
        rw [Grouping.coded_snoc_of_ne hkey heq]
        exact hgoes.forall_mem h (fun _ _ _ _ hslot ↦ hslot.of_begins) fun _ _ hslot _ ↦ hslot

theorem Follows.after (h : stage.Follows keys aggregates width k rows requests)
    (hok : keyOf keys row = .ok k → (stage.grouping.push stage.bundle row).outcome = .ok ()) :
    (stage.after row).Follows keys aggregates width k (rows ++ [row]) (requests + 1) where
  secure := h.secure.after row
  intact := intact_after h.intact row
  aggregates_eq := by
    rw [← h.aggregates_eq]
    exact Table.aggregatesOf_congr (after_places h.secure.placed row).1
  slots := follows_slots h.secure.placed h.intact.keys_eq h.slots hok

/-- A slot takes in a further row that can be remembered. -/
theorem absorbSlot_of_ofRows {slot : Slot} {groups : Std.TreeMap Bytes Buffer} {buffer : Buffer}
    (h : slot.Follows k rows groups) (hk : groups[k]? = some buffer)
    (hrows : ∃ m, Memory.ofRows slot.aggregator.aggregate (rows ++ [row]) = .ok m) :
    (absorbSlot slot row buffer).outcome = .ok () := by
  obtain ⟨m', hm'⟩ := hrows
  obtain ⟨memories, hknows, hremembered⟩ := h.knows
  have hmem := Grouping.mem_of_some hk
  obtain ⟨m, hm, habsorb⟩ := Memory.absorb_of_ofRows_snoc (h.mem_iff.1 hmem) hm'
  cases hm.symm.trans (hremembered hmem)
  rw [hknows.absorbSlot_outcome hk, habsorb]
  rfl

/-- A slot begins a group with a row that can be remembered. -/
theorem startSlot_of_ofRows {slot : Slot} {groups : Std.TreeMap Bytes Buffer} {capacity : Nat}
    (h : slot.Intact groups requests) (hroom : slot.HasRoom capacity)
    (hfew : requests + 1 < 1 <<< 32)
    (hrow : ∃ m, Memory.ofRows slot.aggregator.aggregate [row] = .ok m) :
    (startSlot slot row (.blank capacity)).outcome = .ok () := by
  rw [Memory.ofRows_singleton, ← verdict_eq_ok] at hrow
  have hdrawn : (new slot.aggregator.aggregate).drawn ≤ slot.aggregator.drawn :=
    Prod.mk_le_mk.2 ⟨Nat.zero_le _, Nat.zero_le _⟩
  have hsame : (new slot.aggregator.aggregate).aggregate = slot.aggregator.aggregate := rfl
  rcases verdict_start hsame hdrawn row with ⟨e, -, hexhausted⟩ | hverdict
  · exact absurd (h.le_of_exhausted hexhausted) (Nat.not_le.2 hfew)
  · rw [verdict_start_new, hrow] at hverdict
    rw [hroom.startSlot_outcome, hverdict]

/-- A row of the group is taken in if it could be remembered with those before it. -/
theorem Follows.accepted (h : stage.Follows keys aggregates width k rows requests)
    (hkey : keyOf keys row = .ok k)
    (hrows : ∀ aggregate ∈ aggregates,
      ∃ m, Memory.ofRows aggregate (coded keys rows k ++ [row]) = .ok m)
    (hfew : requests + 1 < 1 <<< 32) :
    (stage.grouping.push stage.bundle row).outcome = .ok () := by
  have hkey' : keyOf stage.grouping.keys row = .ok k := by rwa [h.intact.keys_eq]
  have hslot (slot : Slot) (hslot : slot ∈ stage.bundle.slots) :
      ∃ m, Memory.ofRows slot.aggregator.aggregate (coded keys rows k ++ [row]) = .ok m :=
    hrows _ (h.aggregates_eq ▸ List.mem_map_of_mem hslot)
  cases houtcome : (stage.grouping.push stage.bundle row).outcome with
  | ok u => rfl
  | error e =>
    exfalso
    obtain ⟨new, slots', ⟨old, hold, -, hgoes, -⟩ | ⟨hnone, -, hgoes, -⟩⟩ :=
      Grouping.push_goes h.secure.placed hkey'
    all_goals
      rw [houtcome] at hgoes
      obtain ⟨front, -, refusing, -, behind, hslots, -, -, hrefusing, -⟩ := hgoes.of_error
      have hmem : refusing ∈ stage.bundle.slots :=
        hslots ▸ List.mem_append_right _ List.mem_cons_self
    · cases (absorbSlot_of_ofRows (h.slots _ hmem) hold (hslot _ hmem)).symm.trans hrefusing
    · have hfirst := hslot _ hmem
      rw [(h.slots _ hmem).eq_nil_of_none hnone, List.nil_append] at hfirst
      cases (startSlot_of_ofRows (h.intact.slots _ hmem) (h.secure.hasRoom _ hmem) hfew
        hfirst).symm.trans hrefusing

end GroupStage

/-! ## Runs -/

namespace Table

variable {stage : GroupStage} {keys : List Key} {aggregates : List Aggregate} {width requests : Nat}
  {k : Bytes} {past rows : List Row} {columns : Columns} {next : Table}

/-- What becomes of some rows, of which those of the group with the code `k` are taken in. -/
def TakenIn (keys : List Key) (k : Bytes) : List Row → List (Except Error Unit) → Prop :=
  List.Forall₂ fun row outcome ↦ keyOf keys row = .ok k → outcome = .ok ()

/-- If all rows of a group are taken in, they are remembered at the end. -/
theorem serveAll_follows (h : stage.Follows keys aggregates width k past requests)
    (htaken : TakenIn keys k rows (serveAll (.grouped stage columns next) (rows.map .push)).2) :
    ∃ stage', (serveAll (.grouped stage columns next) (rows.map .push)).1 =
        .grouped stage' columns next ∧ stage'.order = stage.order ∧
      stage'.Follows keys aggregates width k (past ++ rows) (requests + rows.length) := by
  induction rows generalizing stage past requests with
  | nil =>
    refine ⟨stage, rfl, rfl, ?_⟩
    rwa [List.append_nil]
  | cons row rows ih =>
    obtain ⟨hrow, hrows⟩ := List.forall₂_cons.1 htaken
    obtain ⟨stage', hstate, horder, hfollows⟩ := ih (h.after hrow) hrows
    refine ⟨stage', hstate, horder, ?_⟩
    rwa [List.append_assoc, List.singleton_append, Nat.add_assoc, Nat.add_comm 1] at hfollows

/-- All rows of a group are taken in if they could be remembered. -/
theorem serveAll_accepted (h : stage.Follows keys aggregates width k past requests)
    (hall : ∀ aggregate ∈ aggregates,
      ∃ m, Memory.ofRows aggregate (coded keys (past ++ rows) k) = .ok m)
    (hfew : requests + rows.length < 1 <<< 32) :
    TakenIn keys k rows (serveAll (.grouped stage columns next) (rows.map .push)).2 := by
  induction rows generalizing stage past requests with
  | nil => exact .nil
  | cons row rows ih =>
    rw [List.length_cons] at hfew
    have hsplit : past ++ row :: rows = past ++ [row] ++ rows := by simp
    have hrow : keyOf keys row = .ok k →
        (stage.grouping.push stage.bundle row).outcome = .ok () := by
      intro hkey
      refine h.accepted hkey ?_ (by omega)
      rw [← Grouping.coded_snoc_self hkey]
      intro aggregate haggregate
      refine Memory.ofRows_of_prefix ?_ ?_ (hall aggregate haggregate)
      · rw [Grouping.coded_snoc_self hkey]
        exact List.append_ne_nil_of_right_ne_nil _ (List.cons_ne_nil _ _)
      · rw [hsplit]
        exact (List.prefix_append _ _).filter _
    refine .cons hrow (ih (h.after hrow) ?_ (by omega))
    rwa [← hsplit]

end Table

end Rollup
