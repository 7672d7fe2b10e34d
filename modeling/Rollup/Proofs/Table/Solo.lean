import Rollup.Proofs.Table.Assignment
import Rollup.Proofs.Table.Stage

/-!
# A slot of a bundle works like a table of its own

A table with a single aggregate that is given the same rows goes through the
same motions as the slot of that aggregate in a bundle, whatever other slots
there are (`Mirrors`).  It may print in other columns, for these have no
influence on what is remembered (`start_unplaced`, `absorb_unplaced`).  So it
takes in every row that the bundle takes in (`solo_ok`).
-/

namespace Rollup

open Outcome

/-! ## Columns have no influence -/

namespace Aggregator

/-- The same aggregator, printing in the first column. -/
def unplaced (a : Aggregator) : Aggregator := { a with aggregate := a.aggregate.unplaced }

theorem carriedBlob_unplaced (carried : List CarriedField) (row : Row) :
    carriedBlob (carried.map fun c ↦ ⟨c.field, 0⟩) row = carriedBlob carried row := by
  rw [carriedBlob, carriedBlob, List.mapM_map]
  rfl

theorem slotSize_of_unplaced {a b : Aggregator} (h : b.unplaced = a.unplaced) :
    b.aggregate.slotSize = a.aggregate.slotSize := by
  have hunplaced (aggregate : Aggregate) : aggregate.unplaced.slotSize = aggregate.slotSize := by
    cases aggregate <;> rfl
  rw [← hunplaced, ← hunplaced a.aggregate]
  exact congrArg (fun c : Aggregator ↦ c.aggregate.slotSize) h

variable [NumberReader]

theorem start_unplaced (a : Aggregator) (row : Row) :
    a.unplaced.start row = ((a.start row).1.unplaced, (a.start row).2) := by
  obtain ⟨aggregate, arena, seen, nextGroup⟩ := a
  cases aggregate with
  | nothing | count | sum | extremum => rfl
  | bestRow goal field carried =>
    simp only [start, unplaced, Aggregate.unplaced, carriedBlob_unplaced]
    cases number row field with
    | error e => rfl
    | ok x => cases carriedBlob carried row <;> rfl
  | distinct field column =>
    change start ⟨.distinct field 0, arena, seen, nextGroup⟩ row = _
    simp only [start]
    by_cases hfull : 1 <<< 32 ≤ nextGroup + 1
    · rw [if_pos hfull, if_pos hfull]
      rfl
    · rw [if_neg hfull, if_neg hfull]
      cases row.field field <;> rfl

theorem absorb_unplaced (a : Aggregator) (row : Row) (s : Accumulator) :
    a.unplaced.absorb row s = (a.absorb row s).map fun p ↦ (p.1.unplaced, p.2) := by
  obtain ⟨aggregate, arena, seen, nextGroup⟩ := a
  cases aggregate with
  | nothing => cases s <;> rfl
  | count column =>
    cases s with
    | count rows =>
      simp only [absorb, unplaced, Aggregate.unplaced]
      split <;> rfl
    | _ => rfl
  | sum field column =>
    cases s with
    | number total =>
      simp only [absorb, unplaced, Aggregate.unplaced]
      cases number row field <;> rfl
    | _ => rfl
  | extremum goal field column =>
    cases s with
    | number best =>
      simp only [absorb, unplaced, Aggregate.unplaced]
      cases number row field <;> rfl
    | _ => rfl
  | bestRow goal field carried =>
    cases s with
    | bestRow best handle =>
      simp only [absorb, unplaced, Aggregate.unplaced, carriedBlob_unplaced]
      cases number row field with
      | error e => rfl
      | ok x =>
        cases himproved : best.improvement? goal x with
        | none => simp only [himproved]; rfl
        | some better =>
          cases carriedBlob carried row with
          | error e => simp only [himproved]; rfl
          | ok blob =>
            cases hupdate : arena.update handle blob <;>
              simp only [ok_bind, himproved, hupdate] <;> rfl
    | _ => rfl
  | distinct field column =>
    cases s with
    | distinct group count =>
      change absorb ⟨.distinct field 0, arena, seen, nextGroup⟩ row (.distinct group count) = _
      simp only [absorb]
      cases row.field field with
      | error e => rfl
      | ok value =>
        dsimp only
        by_cases hseen : seen.contains (sighting group value)
        · rw [if_pos hseen, if_pos hseen]
          rfl
        · rw [if_neg hseen, if_neg hseen]
          by_cases hroom : count < maxDistinct
          · rw [if_pos hroom, if_pos hroom]
            rfl
          · rw [if_neg hroom, if_neg hroom]
            rfl
    | _ => rfl

theorem start_of_unplaced {a b : Aggregator} (hsame : b.unplaced = a.unplaced) (row : Row) :
    (b.start row).1.unplaced = (a.start row).1.unplaced ∧ (b.start row).2 = (a.start row).2 := by
  have hb := b.start_unplaced row
  rw [hsame, a.start_unplaced] at hb
  exact (Prod.mk.inj hb).imp Eq.symm Eq.symm

theorem absorb_of_unplaced {a b : Aggregator} (hsame : b.unplaced = a.unplaced) (row : Row)
    (s : Accumulator) :
    (b.absorb row s).outcome = (a.absorb row s).outcome ∧
      (b.absorb row s).state.1.unplaced = (a.absorb row s).state.1.unplaced ∧
      (b.absorb row s).state.2 = (a.absorb row s).state.2 := by
  have hb := b.absorb_unplaced row s
  rw [hsame, a.absorb_unplaced] at hb
  obtain ⟨hstate, houtcome⟩ := Step.mk.inj hb
  exact ⟨houtcome.symm, (Prod.mk.inj hstate).imp Eq.symm Eq.symm⟩

end Aggregator

/-! ## The only slot of a bundle -/

/-- Writing a buffer that has the size of its only slot. -/
theorem Buffer.write_whole {buffer : Buffer} {size : Nat} {need : SlotSize}
    (hcapacity : buffer.capacity = size) (hneed : need.size ≤ size) (s : Accumulator) :
    ∃ new, buffer.write 0 size need s = .ok new ∧ new.capacity = size ∧
      new.read 0 size = .ok s := by
  have hfits : 0 + size ≤ buffer.capacity ∧ need.size ≤ size ∧ 0 % need.align = 0 :=
    ⟨by omega, hneed, Nat.zero_mod _⟩
  obtain ⟨new, hwrite, hnew⟩ : ∃ new, buffer.write 0 size need s = .ok new ∧
      new.capacity = buffer.capacity := ⟨_, if_pos hfits, rfl⟩
  exact ⟨new, hwrite, hnew.trans hcapacity, Buffer.read_write_self hwrite⟩

namespace Grouping

variable {g : Grouping} {row : Row} {k : Bytes} {solo : Slot} {old new : Buffer} {s : Accumulator}

theorem push_only_first [NumberReader] (hkey : keyOf g.keys row = .ok k)
    (hnone : g.groups[k]? = none) (hstart : (solo.aggregator.start row).2 = .ok s) {capacity : Nat}
    (hwrite : (Buffer.blank capacity).write solo.offset solo.size
      (solo.aggregator.start row).1.aggregate.slotSize s = .ok new) :
    g.push ⟨[solo], capacity⟩ row = .done ({ g with groups := g.groups.insert k new },
      ⟨[{ solo with aggregator := (solo.aggregator.start row).1 }], capacity⟩) := by
  have hslot : Bundle.startSlot solo row (.blank capacity) =
      .done ({ solo with aggregator := (solo.aggregator.start row).1 }, new) := by
    rw [Bundle.startSlot_of_ok hstart, hwrite]
    rfl
  have hbundle : (Bundle.mk [solo] capacity).start row =
      .done (⟨[{ solo with aggregator := (solo.aggregator.start row).1 }], capacity⟩, new) := by
    rw [Bundle.start, Bundle.through, hslot]
    rfl
  simp only [push, hkey, hnone, hbundle]
  rfl

theorem push_only_further [NumberReader] (hkey : keyOf g.keys row = .ok k)
    (hsome : g.groups[k]? = some old)
    (hheld : solo.held old = .ok s) (habsorb : (solo.aggregator.absorb row s).outcome = .ok ())
    (capacity : Nat) :
    g.push ⟨[solo], capacity⟩ row =
      .done ({ g with
          groups := g.groups.insert k
            (old.replace solo.offset solo.size (solo.aggregator.absorb row s).state.2) },
        ⟨[{ solo with aggregator := (solo.aggregator.absorb row s).state.1 }], capacity⟩) := by
  have hread : old.read solo.offset solo.size = .ok s := hheld
  have hslot : Bundle.absorbSlot solo row old =
      .done ({ solo with aggregator := (solo.aggregator.absorb row s).state.1 },
        old.replace solo.offset solo.size (solo.aggregator.absorb row s).state.2) := by
    rw [Bundle.absorbSlot, hread]
    exact congrArg (Step.mk _) habsorb
  have hbundle : (Bundle.mk [solo] capacity).absorb row old =
      .done (⟨[{ solo with aggregator := (solo.aggregator.absorb row s).state.1 }], capacity⟩,
        old.replace solo.offset solo.size (solo.aggregator.absorb row s).state.2) := by
    rw [Bundle.absorb, Bundle.through, hslot]
    rfl
  simp only [push, hkey, hsome, hbundle]
  rfl

/-! ## Mirroring a slot -/

/-- The slot `solo`, which has the buffers `groups'` to itself, knows the same of
every group as `slot` does with others in the buffers `groups`. -/
structure Mirrors (slot : Slot) (groups : Std.TreeMap Bytes Buffer) (solo : Slot)
    (groups' : Std.TreeMap Bytes Buffer) : Prop where
  same : solo.aggregator.unplaced = slot.aggregator.unplaced
  offset_eq : solo.offset = 0
  size_eq : solo.size = slot.aggregator.aggregate.slotSize.size
  none : ∀ {k : Bytes}, groups[k]? = none → groups'[k]? = none
  some : ∀ {k : Bytes} {buffer : Buffer}, groups[k]? = some buffer →
    ∃ buffer', groups'[k]? = some buffer' ∧ buffer'.capacity = solo.size ∧
      solo.held buffer' = slot.held buffer

theorem Mirrors.insert {slot slot' solo : Slot} {groups groups' : Std.TreeMap Bytes Buffer}
    {k : Bytes} {new new' : Buffer} {b : Aggregator} (h : Mirrors slot groups solo groups')
    (hplace : place slot' = place slot) (hsame : b.unplaced = slot'.aggregator.unplaced)
    (hcapacity : new'.capacity = solo.size) (hheld : solo.held new' = slot'.held new) :
    Mirrors slot' (groups.insert k new) { solo with aggregator := b } (groups'.insert k new') := by
  obtain ⟨haggregate, hrest⟩ := Prod.mk.inj hplace
  obtain ⟨hoffset, hsize⟩ := Prod.mk.inj hrest
  refine ⟨hsame, h.offset_eq, ?_, fun {k'} hnone ↦ ?_, fun {k' buffer} hsome ↦ ?_⟩
  · rw [haggregate]
    exact h.size_eq
  · rw [getElem?_insert] at hnone ⊢
    split at hnone
    · cases hnone
    · rename_i hne
      rw [if_neg hne]
      exact h.none hnone
  · rw [getElem?_insert] at hsome ⊢
    split at hsome
    · rename_i heq
      cases hsome
      rw [if_pos heq]
      exact ⟨new', rfl, hcapacity, hheld⟩
    · rename_i hne
      rw [if_neg hne, Slot.held, hoffset, hsize]
      exact h.some hsome

theorem Mirrors.write {slot slot' solo : Slot} {groups groups' : Std.TreeMap Bytes Buffer}
    {b : Aggregator} {buffer : Buffer} (h : Mirrors slot groups solo groups')
    (hplace : place slot' = place slot) (hsame : b.unplaced = slot'.aggregator.unplaced)
    (hcapacity : buffer.capacity = solo.size) (s : Accumulator) :
    ∃ new, buffer.write solo.offset solo.size b.aggregate.slotSize s = .ok new ∧
      new.capacity = solo.size ∧ solo.held new = .ok s := by
  have haggregate : slot'.aggregator.aggregate = slot.aggregator.aggregate :=
    (Prod.mk.inj hplace).1
  have hneed : b.aggregate.slotSize.size = solo.size := by
    rw [Aggregator.slotSize_of_unplaced hsame, haggregate, h.size_eq]
  obtain ⟨new, hwrite, hnew, hread⟩ := Buffer.write_whole hcapacity (Nat.le_of_eq hneed) s
  refine ⟨new, h.offset_eq ▸ hwrite, hnew, ?_⟩
  rw [Slot.held, h.offset_eq]
  exact hread

/-- Where a bundle takes in a row, so does a slot alone that mirrors one of its
slots. -/
theorem push_mirrors [NumberReader] {g g' : Grouping} {bundle : Bundle} {slot solo : Slot}
    {row : Row} {i : Nat}
    (h : Mirrors slot g.groups solo g'.groups) (hslot : bundle.slots[i]? = some slot)
    (hkeys : keyOf g'.keys row = keyOf g.keys row) (hplaced : Bundle.WellPlaced bundle.slots)
    (hplaces : (g.push bundle row).state.2.slots.map place = bundle.slots.map place)
    (hok : (g.push bundle row).outcome = .ok ()) :
    ∃ slot' solo' groups', (g.push bundle row).state.2.slots[i]? = some slot' ∧
      g'.push ⟨[solo], solo.size⟩ row =
        .done ({ g' with groups := groups' }, ⟨[solo'], solo'.size⟩) ∧
      Mirrors slot' (g.push bundle row).state.1.groups solo' groups' := by
  obtain ⟨k, new, slots', hkey, hstate, hcase⟩ := push_cases hplaced hok
  have hkey' : keyOf g'.keys row = .ok k := hkeys.trans hkey
  rw [hstate] at hplaces ⊢
  have hplace {slot' : Slot} (hslot' : slots'[i]? = some slot') : place slot' = place slot := by
    have hmap := congrArg (fun places ↦ places[i]?) hplaces
    simp only [List.getElem?_map, hslot', hslot] at hmap
    exact Option.some.inj hmap
  rcases hcase with ⟨old, hold, hshared⟩ | ⟨hnone, hshared⟩
  · obtain ⟨slot', hslot', hoffset, hsize, hdid⟩ := getElem?_of_forall₂ hshared hslot
    obtain ⟨old', hold', hcapacity, hheld⟩ := h.some hold
    cases hbefore : slot.held old with
    | error e =>
      rw [hbefore] at hdid
      cases hdid.1
    | ok s =>
      rw [hbefore] at hdid hheld
      obtain ⟨houtcome, haggregator, hafter⟩ := hdid
      obtain ⟨houtcome', hsame, haccumulator⟩ := Aggregator.absorb_of_unplaced h.same row s
      rw [← haggregator] at hsame
      refine ⟨slot', _, _, hslot', push_only_further hkey' hold' hheld
        (houtcome'.trans houtcome.symm) solo.size, h.insert (hplace hslot') hsame hcapacity ?_⟩
      rw [Slot.held, Buffer.read_replace_self hheld, haccumulator, ← hafter, Slot.held, Slot.held,
        hoffset, hsize]
  · obtain ⟨slot', hslot', hoffset, hsize, haggregator, hbegun⟩ := getElem?_of_forall₂ hshared hslot
    obtain ⟨s, hstart, hafter⟩ := hbegun rfl
    obtain ⟨hsame, haccumulator⟩ := Aggregator.start_of_unplaced h.same row
    rw [← haggregator] at hsame
    obtain ⟨new', hwrite, hcapacity', hheld'⟩ :=
      h.write (hplace hslot') hsame (rfl : (Buffer.blank solo.size).capacity = solo.size) s
    refine ⟨slot', _, g'.groups.insert k new', hslot', push_only_first hkey' (h.none hnone)
      (haccumulator.trans hstart) hwrite, h.insert (hplace hslot') hsame hcapacity' ?_⟩
    rw [hheld', ← hafter, Slot.held, Slot.held, hoffset, hsize]

/-! ## Keys with the same fields -/

theorem tuple_eq (keys : List Key) (row : Row) :
    tuple keys row = (keys.map Key.field).mapM row.field := by
  rw [List.mapM_map]
  rfl

variable {keys keys' : List Key}

theorem tuple_congr (h : keys'.map Key.field = keys.map Key.field) (row : Row) :
    tuple keys' row = tuple keys row := by
  rw [tuple_eq, tuple_eq, h]

theorem members_congr (h : keys'.map Key.field = keys.map Key.field) (t : List Bytes)
    (rows : List Row) : members keys' t rows = members keys t rows := by
  refine List.filter_congr fun row _ ↦ ?_
  rw [Bool.eq_iff_iff, hasTuple_iff, hasTuple_iff, tuple_congr h]

theorem keyOf_congr (h : keys'.map Key.field = keys.map Key.field) (row : Row) :
    keyOf keys' row = keyOf keys row := by
  match keys, keys', h with
  | [], [], _ => rfl
  | [_], [_], h => exact congrArg row.field (List.singleton_inj.1 h)
  | [_], _ :: _ :: _, h | _ :: _ :: _, [_], h => cases (List.cons.inj h).2
  | _ :: _ :: _, _ :: _ :: _, h => exact Key.serialize_congr h row

end Grouping

/-! ## The run of a table of its own -/

namespace Table

open Grouping (Mirrors aggregatesOf)

variable {keys keys' : List Key} {bundle : Bundle} {order : GroupOrder} {width width' : Nat}
  {next next' : Table} {rows : List Row} {aggregate : Aggregate}

/-- What the stage of a single slot has to do with a stage that has this slot
among others. -/
structure StageMirrors (i : Nat) (stage solo : GroupStage) : Prop where
  fields_eq : solo.grouping.keys.map Key.field = stage.grouping.keys.map Key.field
  mirrors : ∃ slot only, stage.bundle.slots[i]? = some slot ∧ solo.bundle = ⟨[only], only.size⟩ ∧
    Mirrors slot stage.grouping.groups only solo.grouping.groups

theorem StageMirrors.after [NumberReader] {i : Nat} {stage solo : GroupStage}
    {aggregates : List Aggregate} {past : List Row} {row : Row} (h : StageMirrors i stage solo)
    (hholds : stage.Holds keys aggregates past)
    (hok : (stage.grouping.push stage.bundle row).outcome = .ok ()) :
    (solo.grouping.push solo.bundle row).outcome = .ok () ∧
      StageMirrors i (stage.after row) (solo.after row) := by
  obtain ⟨hfields, slot, only, hslot, hbundle, hmirrors⟩ := h
  obtain ⟨rfl, rfl, -, htracks⟩ := hholds
  obtain ⟨hkeys, hplaces, -⟩ :=
    Grouping.push_tracks htracks hok fun k hk ↦ Grouping.grown_coded hk past
  obtain ⟨slot', only', groups', hslot', hpush, hmirrors'⟩ := Grouping.push_mirrors hmirrors hslot
    (Grouping.keyOf_congr hfields row) htracks.placed hplaces hok
  rw [← hbundle] at hpush
  refine ⟨by rw [hpush]; rfl, ?_, slot', only', hslot', ?_, ?_⟩
  · simp only [GroupStage.after, hpush, hkeys]
    exact hfields
  · simp only [GroupStage.after, hpush]
    rfl
  · simp only [GroupStage.after, hpush]
    exact hmirrors'

/-- A table with one of the aggregates takes in all rows that the table with all of
them takes in. -/
theorem solo_ok [NumberReader] (hfresh : bundle.Fresh) {among : Aggregate}
    (hamong : among ∈ aggregatesOf bundle.slots) (haggregate : aggregate.unplaced = among.unplaced)
    (hfields : keys'.map Key.field = keys.map Key.field)
    (hok : (Step.each push rows (grouping keys bundle order width next)).outcome = .ok ()) :
    (Step.each push rows (grouping keys' (.single aggregate) order width' next')).outcome =
      .ok () := by
  obtain ⟨slot, hslot, rfl⟩ := List.mem_map.1 hamong
  obtain ⟨i, hi⟩ := List.getElem?_of_mem hslot
  have hsame : (Aggregator.new aggregate).unplaced = slot.aggregator.unplaced := by
    rw [hfresh.new slot hslot]
    exact congrArg Aggregator.new haggregate
  have hstart : StageMirrors i ⟨.new keys, bundle, 0, order⟩
      ⟨.new keys', .single aggregate, 0, order⟩ := by
    refine ⟨hfields, slot, _, hi, rfl, hsame, rfl, ?_, fun _ ↦ ?_, fun hsome ↦ ?_⟩
    · exact congrArg SlotSize.size (Aggregator.slotSize_of_unplaced hsame)
    · simp [Grouping.new]
    · simp [Grouping.new] at hsome
  have hrun := Step.each_history (p := fun table past ↦ ∃ stage solo,
    table = .grouped stage (.blank width) next ∧
    stage.Holds keys (aggregatesOf bundle.slots) past ∧
    Step.each push past (grouping keys' (.single aggregate) order width' next') =
      .done (.grouped solo (.blank width') next') ∧ StageMirrors i stage solo) ?_
    ⟨_, _, rfl, holds_new hfresh.sound keys 0 order, rfl, hstart⟩ hok
  · obtain ⟨-, solo, -, -, hsolo, -⟩ := hrun
    rw [hsolo]
    rfl
  · rintro _ past row ⟨stage, solo, rfl, hholds, hsolo, hmirrors⟩ hpush
    obtain ⟨hok', hmirrors'⟩ := hmirrors.after hholds hpush
    refine ⟨stage.after row, solo.after row, rfl, after_holds hholds hpush, ?_, hmirrors'⟩
    rw [Step.each_append, hsolo, Step.done_andThen, Step.each_cons, push_grouped, hok']
    rfl

end Table

end Rollup
