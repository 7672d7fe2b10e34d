import Mathlib.Data.List.Induction
import Rollup.Proofs.Table.Integers
import Rollup.Proofs.Table.SecureChain

/-!
# Which rows a stage of groups takes in

A stage whose aggregates carry no fields takes in some rows exactly if

* every row has a key;
* every aggregate can be computed for the rows of every group (`Aggregate.Takes`);
* there are enough numbers for the groups.

This is `GroupStage.Admits`, and says nothing about the order of the rows
(`Admits.subperm`).  A run that succeeds shows that it is so (`Took.admits`).  Conversely a
stage that has taken in some of the rows has room for a further one (`Took.exists_push`),
and so it takes in all of them (`Took.run_ok`).
-/

namespace Rollup

open Outcome Aggregate Rollup.Bundle

open Grouping (keyOf coded tuple aggregatesOf place)

namespace Outcome

variable {ε α β : Type} {f : α → Except ε β} {as as' : List α} {bs : List β}

theorem mapM_sublist (h : as.mapM f = .ok bs) (hsub : as'.Sublist as) :
    ∃ bs', as'.mapM f = .ok bs' ∧ bs'.Sublist bs := by
  induction hsub generalizing bs with
  | slnil => exact ⟨bs, h, .refl bs⟩
  | cons a _ ih =>
    obtain ⟨b, bs, -, hbs, rfl⟩ := mapM_cons_eq_ok.1 h
    obtain ⟨bs', hbs', hsub⟩ := ih hbs
    exact ⟨bs', hbs', hsub.cons b⟩
  | cons_cons a _ ih =>
    obtain ⟨b, bs, hb, hbs, rfl⟩ := mapM_cons_eq_ok.1 h
    obtain ⟨bs', hbs', hsub⟩ := ih hbs
    exact ⟨b :: bs', mapM_cons_eq_ok.2 ⟨b, bs', hb, hbs', rfl⟩, hsub.cons_cons b⟩

/-- Some of the computations, in whatever order, have some of the results. -/
theorem mapM_subperm (h : as.mapM f = .ok bs) (hsub : as'.Subperm as) :
    ∃ bs', as'.mapM f = .ok bs' ∧ bs'.Subperm bs := by
  obtain ⟨cs, hperm, hsub⟩ := hsub
  obtain ⟨ds, hds, hdsub⟩ := mapM_sublist h hsub
  obtain ⟨bs', hbs', hsame⟩ := mapM_perm hds hperm
  exact ⟨bs', hbs', ds, hsame, hdsub⟩

end Outcome

theorem length_dedup_le {α : Type} [DecidableEq α] {xs ys : List α} (h : xs ⊆ ys) :
    xs.dedup.length ≤ ys.dedup.length := by
  have hsub : xs.dedup ⊆ ys.dedup := fun a ha ↦ List.mem_dedup.2 (h (List.mem_dedup.1 ha))
  exact (List.subperm_of_subset (List.nodup_dedup xs) hsub).length_le

/-! ## Aggregates -/

section

variable [NumberReader]

namespace Aggregate

/-- The aggregate prints no fields of the best row. -/
def CarriesNothing : Aggregate → Prop
  | .bestRow _ _ _ => False
  | _ => True

/-- The aggregate can be computed for these rows of a group: they have numbers where it
reads numbers, and it need not count too far. -/
def Takes (rows : List Row) : Aggregate → Prop
  | .nothing => True
  | .count _ => rows.length ≤ Aggregator.maxRows
  | .sum field _ | .extremum _ field _ => ∃ xs, readings field rows = .ok xs
  | .bestRow _ _ _ => False
  | .distinct field _ => ∃ values, (rows.mapM fun row ↦ row.field field) = .ok values ∧
      values.dedup.length ≤ Aggregator.maxDistinct

theorem CarriesNothing.takes_nil {aggregate : Aggregate} (h : aggregate.CarriesNothing) :
    aggregate.Takes [] := by
  cases aggregate with
  | nothing => trivial
  | count column => exact Nat.zero_le _
  | sum field column | extremum goal field column => exact ⟨[], rfl⟩
  | bestRow => exact h
  | distinct field column => exact ⟨[], rfl, Nat.zero_le _⟩

theorem Takes.subperm {aggregate : Aggregate} {rows chosen : List Row} (h : aggregate.Takes rows)
    (hsub : chosen.Subperm rows) : aggregate.Takes chosen := by
  cases aggregate with
  | nothing => trivial
  | count column => exact Nat.le_trans hsub.length_le h
  | sum field column | extremum goal field column =>
    obtain ⟨xs, hxs⟩ := h
    obtain ⟨ys, hys, -⟩ := mapM_subperm hxs hsub
    exact ⟨ys, hys⟩
  | bestRow => exact h
  | distinct field column =>
    obtain ⟨values, hvalues, hle⟩ := h
    obtain ⟨others, hothers, hsame⟩ := mapM_subperm hvalues hsub
    exact ⟨others, hothers, Nat.le_trans (length_dedup_le hsame.subset) hle⟩

end Aggregate

/-! ## What can be remembered -/

namespace Memory

open Aggregator

variable {aggregate : Aggregate} {rows : List Row} {row : Row} {m m' : Memory}

theorem takes_of_start (hplain : aggregate.CarriesNothing) (h : start aggregate row = .ok m) :
    aggregate.Takes [row] := by
  cases tells_of_start h with
  | nothing => trivial
  | count => exact Nat.le_of_ble_eq_true rfl
  | sum hxs => exact ⟨_, hxs⟩
  | extremum hys => exact ⟨_, hys⟩
  | bestRow => exact hplain
  | @distinct _ _ values hvalues =>
    refine ⟨values, hvalues, ?_⟩
    exact Nat.le_trans ((List.dedup_sublist values).length_le.trans_eq (length_of_mapM hvalues))
      (Nat.le_of_ble_eq_true rfl)

theorem takes_of_absorb (hm : Tells rows aggregate m) (htakes : aggregate.Takes rows)
    (h : m.absorb aggregate row = .done m') : aggregate.Takes (rows ++ [row]) := by
  have hm' := hm.absorb h
  cases hm with
  | nothing => trivial
  | count =>
    unfold absorb at h
    dsimp only at h
    split at h
    · rename_i hlt
      exact (List.length_append ..).trans_le hlt
    · cases h
  | sum =>
    cases hm' with
    | sum hxs => exact ⟨_, hxs⟩
  | extremum =>
    cases hm' with
    | extremum hys => exact ⟨_, hys⟩
  | bestRow => exact htakes.elim
  | @distinct field column values hvalues =>
    obtain ⟨values', hvalues', hle⟩ := htakes
    cases hvalues.symm.trans hvalues'
    unfold absorb at h
    dsimp only at h
    split at h
    · cases h
    · rename_i value hvalue
      refine ⟨values ++ [value], mapM_snoc_eq_ok hvalues hvalue, ?_⟩
      by_cases hmem : value ∈ values
      · rwa [length_dedup_snoc_of_mem hmem]
      · rw [length_dedup_snoc_of_notMem hmem]
        split at h
        · rename_i hroom
          exact hroom.resolve_left hmem
        · cases h

/-- What is remembered of rows shows that the aggregate can be computed for them. -/
theorem takes_of_ofRows (hplain : aggregate.CarriesNothing) (h : ofRows aggregate rows = .ok m) :
    aggregate.Takes rows := by
  induction rows using List.reverseRecOn generalizing m with
  | nil => cases h
  | append_singleton rows row ih =>
    by_cases hne : rows = []
    · subst hne
      rw [List.nil_append, ofRows_singleton] at h
      exact takes_of_start hplain h
    · obtain ⟨m₀, hm₀, habsorb⟩ := absorb_of_ofRows_snoc hne h
      exact takes_of_absorb (tells_of_ofRows hm₀) (ih hm₀) habsorb

theorem absorb_ok (hm : Tells rows aggregate m) (h : aggregate.Takes (rows ++ [row])) :
    (m.absorb aggregate row).outcome = .ok () := by
  cases hm with
  | nothing => rfl
  | count =>
    have hlt : rows.length < maxRows := (List.length_append ..).symm.trans_le h
    unfold absorb
    dsimp only
    rw [if_pos hlt]
    rfl
  | sum | extremum =>
    obtain ⟨xs, hall⟩ := h
    obtain ⟨-, ys, -, hys, -⟩ := mapM_append_eq_ok.1 hall
    obtain ⟨x, -, hx, -, -⟩ := mapM_cons_eq_ok.1 hys
    rw [absorb, hx]
    rfl
  | bestRow => exact h.elim
  | @distinct field column values hvalues =>
    obtain ⟨all, hall, hle⟩ := h
    obtain ⟨values', others, hvalues', hothers, rfl⟩ := mapM_append_eq_ok.1 hall
    cases hvalues.symm.trans hvalues'
    obtain ⟨value, nothing, hvalue, hnothing, rfl⟩ := mapM_cons_eq_ok.1 hothers
    obtain rfl : nothing = [] := (Except.ok.inj hnothing).symm
    have hroom : value ∈ values ∨ values.dedup.length < maxDistinct := by
      by_cases hmem : value ∈ values
      · exact .inl hmem
      · rw [length_dedup_snoc_of_notMem hmem] at hle
        exact .inr hle
    unfold absorb
    dsimp only
    rw [hvalue]
    dsimp only
    rw [if_pos hroom]
    rfl

end Memory

/-- A group can begin if there is a number for it. -/
theorem Aggregator.exists_start {a : Aggregator} {row : Row} (h : a.aggregate.Takes [row])
    (hnumber : a.nextGroup + a.aggregate.draws.1 < 1 <<< 32) : ∃ s, (a.start row).2 = .ok s := by
  obtain ⟨aggregate, arena, seen, nextGroup⟩ := a
  cases aggregate with
  | nothing | count column => exact ⟨_, rfl⟩
  | sum field column | extremum goal field column =>
    obtain ⟨xs, hxs⟩ := h
    obtain ⟨x, -, hx, -, -⟩ := mapM_cons_eq_ok.1 hxs
    exact ⟨_, map_eq_ok.2 ⟨x, hx, rfl⟩⟩
  | bestRow => exact h.elim
  | distinct field column =>
    obtain ⟨values, hvalues, -⟩ := h
    obtain ⟨value, -, hvalue, -, -⟩ := mapM_cons_eq_ok.1 hvalues
    have hroom : nextGroup + 1 < 1 <<< 32 := hnumber
    unfold start
    dsimp only
    rw [if_neg (Nat.not_le.2 hroom), hvalue]
    exact ⟨_, rfl⟩

/-! ## Slots -/

namespace Slot

variable {slot : Slot} {groups : Std.TreeMap Bytes Buffer} {past : Bytes → List Row} {row : Row}
  {capacity : Nat}

theorem startSlot_of_takes (hroom : slot.HasRoom capacity)
    (htakes : slot.aggregator.aggregate.Takes [row])
    (hnumber : slot.aggregator.nextGroup + slot.aggregator.aggregate.draws.1 < 1 <<< 32) :
    (startSlot slot row (.blank capacity)).outcome = .ok () := by
  rw [hroom.startSlot_outcome, verdict_eq_ok]
  exact Aggregator.exists_start htakes hnumber

theorem absorbSlot_of_takes {k : Bytes} {buffer : Buffer}
    (htracks : Grouping.SlotTracks slot groups past) (hk : groups[k]? = some buffer)
    (htakes : slot.aggregator.aggregate.Takes (past k ++ [row])) :
    (absorbSlot slot row buffer).outcome = .ok () := by
  obtain ⟨memories, hknows, hrows⟩ := htracks
  rw [hknows.absorbSlot_outcome hk]
  exact Memory.absorb_ok (Memory.tells_of_ofRows (hrows k (Grouping.mem_of_some hk))) htakes

end Slot

end

/-! ## Stages of groups -/

namespace GroupStage

variable {stage : GroupStage} {keys : List Key} {aggregates : List Aggregate}
  {rows chosen : List Row} {row : Row} {width : Nat}

/-- A slot that has done its share of a row has given out a number for every group, if it gives
out any. -/
theorem numbered_of_shared
    {does : Slot → Slot → Except Error Accumulator → Except Error Accumulator → Prop}
    {slots slots' : List Slot} {old new : Buffer} {size size' : Nat}
    (hshared : List.Forall₂ (Shared does old new) slots slots')
    (hnumbered : ∀ slot ∈ slots,
      slot.aggregator.nextGroup = slot.aggregator.aggregate.draws.1 * size)
    (hstep : ∀ slot slot', Shared does old new slot slot' →
      slot.aggregator.nextGroup = slot.aggregator.aggregate.draws.1 * size →
        slot'.aggregator.nextGroup = slot'.aggregator.aggregate.draws.1 * size') :
    ∀ slot' ∈ slots', slot'.aggregator.nextGroup = slot'.aggregator.aggregate.draws.1 * size' := by
  induction hshared with
  | nil => exact List.forall_mem_nil _
  | cons hslot _ ih =>
    rw [List.forall_mem_cons] at hnumbered ⊢
    exact ⟨hstep _ _ hslot hnumbered.1, ih hnumbered.2⟩

variable [NumberReader]

/-- Each of the rows has a key, the aggregates can be computed for each group, and there are
enough numbers for the groups. -/
structure Admits (keys : List Key) (aggregates : List Aggregate) (rows : List Row) : Prop where
  coded : ∀ row ∈ rows, ∃ k, keyOf keys row = .ok k
  takes : ∀ aggregate ∈ aggregates, ∀ k, aggregate.Takes (Grouping.coded keys rows k)
  numbers : ∀ tuples, rows.mapM (tuple keys) = .ok tuples → ∀ aggregate ∈ aggregates,
    aggregate.draws.1 * tuples.dedup.length < 1 <<< 32

/-- Some of the rows are admitted as well, in whatever order. -/
theorem Admits.subperm (h : Admits keys aggregates rows) (hsub : chosen.Subperm rows) :
    Admits keys aggregates chosen where
  coded row hrow := h.coded row (hsub.subset hrow)
  takes aggregate haggregate k := (h.takes aggregate haggregate k).subperm (hsub.filter _)
  numbers tuples htuples aggregate haggregate := by
    obtain ⟨all, hall, -⟩ := Grouping.tuples_of_coded h.coded
    obtain ⟨tuples', htuples', hsame⟩ := mapM_subperm hall hsub
    cases htuples.symm.trans htuples'
    exact Nat.lt_of_le_of_lt (Nat.mul_le_mul_left _ (length_dedup_le hsame.subset))
      (h.numbers all hall aggregate haggregate)

/-- There is a group for every tuple. -/
theorem Holds.size_eq (h : stage.Holds keys aggregates rows) {tuples : List (List Bytes)}
    (htuples : rows.mapM (tuple keys) = .ok tuples) :
    stage.grouping.size = tuples.dedup.length := by
  obtain ⟨rfl, -, hcoded, htracks⟩ := h
  obtain ⟨tuples', htuples', hcodes⟩ := Grouping.tuples_of_coded hcoded
  cases htuples.symm.trans htuples'
  obtain ⟨ts, hperm, hlength, -⟩ := Grouping.ordered_tuples htracks htuples hcodes stage.order
  rw [← hlength, hperm.length_eq]

/-- The stage has taken in these rows, and has given a number to each of its groups where an
aggregate needs one. -/
structure Took (width : Nat) (keys : List Key) (aggregates : List Aggregate) (rows : List Row)
    (stage : GroupStage) : Prop where
  holds : stage.Holds keys aggregates rows
  secure : stage.Secure width
  numbered : ∀ slot ∈ stage.bundle.slots, slot.aggregator.nextGroup =
    slot.aggregator.aggregate.draws.1 * stage.grouping.size

theorem took_new {bundle : Bundle} (hfresh : bundle.Fresh) (hroom : bundle.HasRoom)
    (hfits : Grouping.Fits keys (aggregatesOf bundle.slots) width) (order : GroupOrder) :
    Took width keys (aggregatesOf bundle.slots) [] ⟨.new keys, bundle, 0, order⟩ where
  holds := Table.holds_new hfresh.sound keys 0 order
  secure := secure_new hfresh hroom hfits.lt_width order
  numbered slot hslot := by
    rw [hfresh.new slot hslot]
    simp [Aggregator.new, Grouping.size, Grouping.new]

theorem Took.after (h : stage.Took width keys aggregates rows)
    (hok : (stage.grouping.push stage.bundle row).outcome = .ok ()) :
    (stage.after row).Took width keys aggregates (rows ++ [row]) where
  holds := Table.after_holds h.holds hok
  secure := h.secure.after row
  numbered := by
    obtain ⟨k, new, slots', -, hstate, ⟨old, hold, hshared⟩ | ⟨hnone, hshared⟩⟩ :=
      Grouping.push_cases h.secure.placed hok
    all_goals
      rw [after_of_state hstate]
      refine numbered_of_shared hshared h.numbered fun slot slot' hslot hnumber ↦ ?_
    · have hdrawn := eq_of_continues Aggregator.drawn_absorb hslot
      have hsize : (stage.grouping.groups.insert k new).size = stage.grouping.groups.size := by
        rw [Std.TreeMap.size_insert,
          if_pos (Std.TreeMap.mem_iff_contains.1 (Grouping.mem_of_some hold))]
      rw [eq_of_continues Aggregator.absorb_aggregate hslot, Grouping.size, hsize]
      exact (congrArg Prod.fst hdrawn).trans hnumber
    · obtain ⟨haggregator, hbegun⟩ := hslot.did
      obtain ⟨s, hstart, -⟩ := hbegun rfl
      have hdrawn := Aggregator.drawn_start hstart
      rw [← haggregator] at hdrawn
      have hsize : (stage.grouping.groups.insert k new).size = stage.grouping.groups.size + 1 := by
        rw [Std.TreeMap.size_insert, if_neg]
        simp [Std.TreeMap.contains_eq_isSome_getElem?, hnone]
      rw [aggregate_of_begins hslot, Grouping.size, hsize, Nat.mul_succ]
      exact (congrArg Prod.fst hdrawn).trans (congrArg (· + _) hnumber)

/-- A group that does not exist yet would be one more. -/
theorem Took.number_lt (h : stage.Took width keys aggregates rows)
    (hadmits : Admits keys aggregates (rows ++ [row])) {k : Bytes} (hkey : keyOf keys row = .ok k)
    (hnone : stage.grouping.groups[k]? = none) {aggregate : Aggregate}
    (haggregate : aggregate ∈ aggregates) :
    aggregate.draws.1 * stage.grouping.size + aggregate.draws.1 < 1 <<< 32 := by
  obtain ⟨tuples, htuples, -⟩ := Grouping.tuples_of_coded h.holds.coded
  obtain ⟨t, ht, hcode⟩ := Grouping.keyOf_eq_ok.1 hkey
  have hnew : t ∉ tuples := by
    intro hmem
    have hgroup : k ∈ stage.grouping.groups := by
      obtain ⟨rfl, -, -, htracks⟩ := h.holds
      exact (Grouping.mem_groups_iff htracks htuples k).2 ⟨t, hmem, hcode⟩
    rw [Std.TreeMap.mem_iff_isSome_getElem?, hnone] at hgroup
    cases hgroup
  have hlt := hadmits.numbers _ (mapM_snoc_eq_ok htuples ht) aggregate haggregate
  rwa [(List.perm_append_singleton t tuples).dedup.length_eq, List.dedup_cons_of_notMem hnew,
    List.length_cons, ← h.holds.size_eq htuples, Nat.mul_succ] at hlt

/-- A further row that is admitted together with those before it is taken in. -/
theorem Took.exists_push (h : stage.Took width keys aggregates rows)
    (hadmits : Admits keys aggregates (rows ++ [row])) :
    (stage.grouping.push stage.bundle row).outcome = .ok () := by
  obtain ⟨k, hkey⟩ := hadmits.coded row (List.mem_append_right _ (List.mem_singleton_self row))
  obtain ⟨rfl, rfl, hcoded, htracks⟩ := h.holds
  have htakes (slot : Slot) (hslot : slot ∈ stage.bundle.slots) :
      slot.aggregator.aggregate.Takes (coded stage.grouping.keys rows k ++ [row]) := by
    rw [← Grouping.coded_snoc_self hkey]
    exact hadmits.takes _ (List.mem_map_of_mem hslot) k
  cases houtcome : (stage.grouping.push stage.bundle row).outcome with
  | ok u => rfl
  | error e =>
    obtain ⟨new, slots', ⟨old, hold, -, hgoes, -⟩ | ⟨hnone, -, hgoes, -⟩⟩ :=
      Grouping.push_goes h.secure.placed hkey
    all_goals
      rw [houtcome] at hgoes
      obtain ⟨front, -, slot, -, behind, hslots, -, -, hrefusing, -⟩ := hgoes.of_error
      have hslot : slot ∈ stage.bundle.slots := hslots ▸ List.mem_append_right _ List.mem_cons_self
      exfalso
    · cases (Slot.absorbSlot_of_takes (htracks.tracks slot hslot) hold
        (htakes slot hslot)).symm.trans hrefusing
    · have hfirst := htakes slot hslot
      rw [Grouping.eq_nil_of_none htracks.mem_iff hnone, List.nil_append] at hfirst
      cases (Slot.startSlot_of_takes (h.secure.hasRoom slot hslot) hfirst
        (h.numbered slot hslot ▸ h.number_lt hadmits hkey hnone
          (List.mem_map_of_mem hslot))).symm.trans hrefusing

/-! ## Runs -/

/-- After a run that succeeds, the stage has taken in all rows. -/
theorem Took.run (h : stage.Took width keys aggregates [])
    (hrun : (Step.each take rows stage).outcome = .ok ()) :
    (Step.each take rows stage).state.Took width keys aggregates rows :=
  Step.each_history (p := fun stage rows ↦ stage.Took width keys aggregates rows)
    (fun _ _ _ hpast hok ↦ hpast.after hok) h hrun

/-- Rows that have been taken in are admitted. -/
theorem Took.admits (h : stage.Took width keys aggregates rows)
    (hplain : ∀ aggregate ∈ aggregates, aggregate.CarriesNothing) :
    Admits keys aggregates rows where
  coded := h.holds.coded
  takes aggregate haggregate k := by
    obtain ⟨rfl, rfl, hcoded, htracks⟩ := h.holds
    obtain ⟨slot, hslot, rfl⟩ := List.mem_map.1 haggregate
    have hslotPlain := hplain _ haggregate
    cases hbuffer : stage.grouping.groups[k]? with
    | none =>
      rw [Grouping.eq_nil_of_none htracks.mem_iff hbuffer]
      exact hslotPlain.takes_nil
    | some buffer =>
      obtain ⟨memories, -, hrows⟩ := htracks.tracks slot hslot
      exact Memory.takes_of_ofRows hslotPlain (hrows k (Grouping.mem_of_some hbuffer))
  numbers tuples htuples aggregate haggregate := by
    rw [← h.holds.size_eq htuples]
    obtain ⟨rfl, rfl, hcoded, htracks⟩ := h.holds
    obtain ⟨slot, hslot, rfl⟩ := List.mem_map.1 haggregate
    rw [← h.numbered slot hslot]
    obtain ⟨memories, ⟨kept, hkeeps⟩, -⟩ := htracks.tracks slot hslot
    exact hkeeps.sound.nextGroup_lt

/-- Rows that are admitted are taken in, one after the other. -/
theorem Took.run_ok (h : stage.Took width keys aggregates [])
    (hadmits : Admits keys aggregates rows) : (Step.each take rows stage).outcome = .ok () := by
  cases hrun : (Step.each take rows stage).outcome with
  | ok u => rfl
  | error e =>
    obtain ⟨front, row, behind, stage', rfl, hfront, -, hrow⟩ := Step.exists_refused hrun
    have hok : (Step.each take front stage).outcome = .ok () := by
      rw [hfront]
      rfl
    have htook := h.run hok
    rw [hfront] at htook
    have hsub : (front ++ [row]).Sublist (front ++ row :: behind) :=
      (List.Sublist.refl front).append (List.singleton_sublist.2 List.mem_cons_self)
    cases (htook.exists_push (hadmits.subperm hsub.subperm)).symm.trans hrow

end GroupStage

end Rollup
