import Rollup.Proofs.Codec.Arena
import Rollup.Proofs.Codec.Fields
import Rollup.Proofs.Table.Memory

/-!
# Groups of one aggregator do not disturb each other

An aggregator keeps a part of what it knows about a group outside of the
group's accumulator: carried fields in an arena, behind a handle, and values
that were seen in a set, behind a number.  `Accumulator.ticket?` is this handle
or number, and accumulators of different groups have different ones
(`Accumulator.Apart`).

`Aggregator.Recalls a kept m s` says that the accumulator `s`, with what `a` keeps for
it, amounts to the memory `m` of a group.  Here `kept` are the blobs behind the handles
of the arena.

* Starting a group and taking in a row do what `Memory.start` and `Memory.absorb` do,
  whether or not the row is refused, and leave all accumulators apart from it
  (`exists_starts`, `exists_absorbs`).
* What is printed is what is printed of the memory (`Recalls.results_eq`).

A group that is alone goes through the same memories (`lone_alike`).  So what becomes of
a group among others is what becomes of it alone.
-/

namespace Rollup

open Outcome Aggregate

/-- The handle or number under which an aggregator keeps more about a group. -/
def Accumulator.ticket? : Accumulator → Option Nat
  | .bestRow _ handle => some handle
  | .distinct group _ => some group
  | _ => none

/-- The accumulators have no ticket in common. -/
def Accumulator.Apart (s t : Accumulator) : Prop := ∀ n, s.ticket? = some n → t.ticket? ≠ some n

theorem Accumulator.Apart.symm {s t : Accumulator} (h : s.Apart t) : t.Apart s :=
  fun n ht hs ↦ h n hs ht

namespace Aggregator

/-! ## Sightings -/

theorem sighting_inj {g g' : Nat} {v v' : Bytes} (hg : g < 1 <<< 32) (hg' : g' < 1 <<< 32)
    (h : sighting g v = sighting g' v') : g = g' ∧ v = v' := by
  obtain ⟨hnumber, hvalue⟩ := List.append_inj h (by simp)
  exact ⟨Varint.littleEndian_inj (by omega) (by omega) hnumber, hvalue⟩

/-- The values that group number `group` has seen are those of the list. -/
def Saw (seen : Std.TreeSet Bytes) (group : Nat) (values : List Bytes) : Prop :=
  ∀ v, sighting group v ∈ seen ↔ v ∈ values

theorem Saw.contains_iff {seen : Std.TreeSet Bytes} {group : Nat} {values : List Bytes}
    (h : Saw seen group values) {v : Bytes} :
    seen.contains (sighting group v) = true ↔ v ∈ values := by
  rw [← Std.TreeSet.mem_iff_contains]
  exact h v

theorem mem_insert {seen : Std.TreeSet Bytes} {s t : Bytes} :
    t ∈ seen.insert s ↔ s = t ∨ t ∈ seen := by
  rw [Std.TreeSet.mem_insert, Std.LawfulEqCmp.compare_eq_iff_eq]

theorem Saw.insert {seen : Std.TreeSet Bytes} {group : Nat} {values : List Bytes}
    (h : Saw seen group values) (hg : group < 1 <<< 32) (v : Bytes) :
    Saw (seen.insert (sighting group v)) group (values ++ [v]) := by
  intro w
  rw [mem_insert, h w, List.mem_append, List.mem_singleton]
  constructor
  · rintro (hs | hw)
    · exact .inr (sighting_inj hg hg hs).2.symm
    · exact .inl hw
  · rintro (hw | rfl)
    · exact .inr hw
    · exact .inl rfl

/-- What a group has seen does not depend on the sightings of others. -/
theorem Saw.insert_of_ne {seen : Std.TreeSet Bytes} {group other : Nat} {values : List Bytes}
    (h : Saw seen group values) (hg : group < 1 <<< 32) (ho : other < 1 <<< 32)
    (hne : group ≠ other) (v : Bytes) : Saw (seen.insert (sighting other v)) group values := by
  intro w
  rw [mem_insert, h w]
  constructor
  · rintro (hs | hw)
    · exact absurd (sighting_inj ho hg hs).1.symm hne
    · exact hw
  · exact .inr

theorem Saw.snoc_of_mem {seen : Std.TreeSet Bytes} {group : Nat} {values : List Bytes}
    (h : Saw seen group values) {v : Bytes} (hv : v ∈ values) : Saw seen group (values ++ [v]) := by
  intro w
  rw [h w, List.mem_append, List.mem_singleton]
  exact ⟨.inl, fun hw ↦ hw.elim id fun heq ↦ heq ▸ hv⟩

theorem length_dedup_snoc_of_mem {values : List Bytes} {v : Bytes} (h : v ∈ values) :
    (values ++ [v]).dedup.length = values.dedup.length := by
  rw [(List.perm_append_singleton v values).dedup.length_eq, List.dedup_cons_of_mem h]

theorem length_dedup_snoc_of_notMem {values : List Bytes} {v : Bytes} (h : v ∉ values) :
    (values ++ [v]).dedup.length = values.dedup.length + 1 := by
  rw [(List.perm_append_singleton v values).dedup.length_eq, List.dedup_cons_of_notMem h,
    List.length_cons]

/-! ## What an aggregator knows -/

/-- What all groups share is in order: the arena stores the blobs that are kept, and no
group that does not exist yet has seen anything. -/
structure Sound (a : Aggregator) (kept : List (Option Bytes)) : Prop where
  arena : a.arena.Stores kept
  nextGroup_lt : a.nextGroup < 1 <<< 32
  fresh : ∀ group, a.nextGroup ≤ group → group < 1 <<< 32 → Saw a.seen group []

theorem sound_new (aggregate : Aggregate) : Sound (new aggregate) [] where
  arena := Arena.stores_empty
  nextGroup_lt := by simp [new]
  fresh group _ _ v := by simp [new]

/-- The accumulator, with what is kept for it, amounts to the memory. -/
inductive Recalled (kept : List (Option Bytes)) (seen : Std.TreeSet Bytes) (nextGroup : Nat) :
    Aggregate → Memory → Accumulator → Prop
  | nothing : Recalled kept seen nextGroup .nothing .nothing .nothing
  | count {column rows : Nat} :
    Recalled kept seen nextGroup (.count column) (.count rows) (.count rows)
  | sum {field column : Nat} {x : Numeric} :
    Recalled kept seen nextGroup (.sum field column) (.numeric x) (.number x)
  | extremum {goal : Goal} {field column : Nat} {x : Numeric} :
    Recalled kept seen nextGroup (.extremum goal field column) (.numeric x) (.number x)
  | bestRow {goal : Goal} {field handle : Nat} {carried : List CarriedField} {x : Numeric}
    {fields : List Bytes} {blob : Bytes} (length_eq : fields.length = carried.length)
    (encoded : Blob.encode fields = .ok blob) (hkept : kept[handle]? = some (some blob)) :
    Recalled kept seen nextGroup (.bestRow goal field carried) (.bestRow x fields)
      (.bestRow x handle)
  | distinct {field column group : Nat} {values : List Bytes} (hgroup : group < nextGroup)
    (saw : Saw seen group values) :
    Recalled kept seen nextGroup (.distinct field column) (.distinct values)
      (.distinct group values.dedup.length)

@[inherit_doc Recalled]
abbrev Recalls (a : Aggregator) (kept : List (Option Bytes)) (m : Memory) (s : Accumulator) :
    Prop :=
  Recalled kept a.seen a.nextGroup a.aggregate m s

/-- What is recalled with a ticket depends only on what is kept for this ticket. -/
theorem Recalled.mono {kept kept' : List (Option Bytes)} {seen seen' : Std.TreeSet Bytes}
    {nextGroup nextGroup' : Nat} {aggregate : Aggregate} {m : Memory} {s : Accumulator}
    (h : Recalled kept seen nextGroup aggregate m s) (hnext : nextGroup ≤ nextGroup')
    (hblobs : ∀ handle blob, s.ticket? = some handle → kept[handle]? = some (some blob) →
      kept'[handle]? = some (some blob))
    (hseen : ∀ group values, s.ticket? = some group → Saw seen group values →
      group < nextGroup → Saw seen' group values) :
    Recalled kept' seen' nextGroup' aggregate m s := by
  cases h with
  | nothing => exact .nothing
  | count => exact .count
  | sum => exact .sum
  | extremum => exact .extremum
  | bestRow hlength hencoded hkept => exact .bestRow hlength hencoded (hblobs _ _ rfl hkept)
  | distinct hgroup saw =>
    exact .distinct (Nat.lt_of_lt_of_le hgroup hnext) (hseen _ _ rfl saw hgroup)

section Shared

variable {kept : List (Option Bytes)} {seen : Std.TreeSet Bytes} {nextGroup nextGroup' group
  handle : Nat} {aggregate : Aggregate} {goal : Goal} {field : Nat} {carried : List CarriedField}
  {x : Numeric} {m : Memory} {t : Accumulator}

/-- More blobs leave alone what is known with the handles given out before. -/
theorem Recalled.append (h : Recalled kept seen nextGroup aggregate m t)
    (more : List (Option Bytes)) : Recalled (kept ++ more) seen nextGroup aggregate m t := by
  refine h.mono (Nat.le_refl _) (fun handle blob _ hkept ↦ ?_) fun _ _ _ hsaw _ ↦ hsaw
  rw [List.getElem?_append_left (List.getElem?_eq_some_iff.1 hkept).1]
  exact hkept

/-- A new handle is in use with no other group. -/
theorem Recalled.apart_new (h : Recalled kept seen nextGroup (.bestRow goal field carried) m t) :
    t.Apart (.bestRow x kept.length) := by
  cases h with
  | bestRow _ _ hkept =>
    rintro n ⟨⟩ ⟨⟩
    exact Nat.lt_irrefl _ (List.getElem?_eq_some_iff.1 hkept).1

/-- A blob that is updated leaves alone what is known with other handles. -/
theorem Recalled.of_update (h : Recalled kept seen nextGroup aggregate m t)
    (hapart : t.Apart (.bestRow x handle)) (blob : Bytes) :
    Recalled (kept.set handle (some blob)) seen nextGroup aggregate m t := by
  refine h.mono (Nat.le_refl _) (fun other found hticket hfound ↦ ?_) fun _ _ _ hsaw _ ↦ hsaw
  rw [List.getElem?_set_ne fun heq ↦ hapart other hticket (congrArg some heq)]
  exact hfound

/-- A value that a group sees leaves alone what is known of other groups. -/
theorem Recalled.of_sighting (h : Recalled kept seen nextGroup aggregate m t)
    (hle : nextGroup ≤ nextGroup') (hnext : nextGroup < 1 <<< 32) (hgroup : group < 1 <<< 32)
    (hother : ∀ other, t.ticket? = some other → other < nextGroup → other ≠ group) (v : Bytes) :
    Recalled kept (seen.insert (sighting group v)) nextGroup' aggregate m t := by
  refine h.mono hle (fun _ _ _ hkept ↦ hkept) fun other values hticket hsaw hlt ↦ ?_
  exact hsaw.insert_of_ne (Nat.lt_trans hlt hnext) hgroup (hother other hticket hlt) v

/-- Groups that do not exist yet have not seen what a group sees. -/
theorem fresh_of_sighting
    (hfresh : ∀ other, nextGroup ≤ other → other < 1 <<< 32 → Saw seen other [])
    (hle : nextGroup ≤ nextGroup') (hlt : group < nextGroup') (hgroup : group < 1 <<< 32)
    (v : Bytes) :
    ∀ other, nextGroup' ≤ other → other < 1 <<< 32 →
      Saw (seen.insert (sighting group v)) other [] := by
  intro other hother hbound
  have hne : other ≠ group := Nat.ne_of_gt (Nat.lt_of_lt_of_le hlt hother)
  exact (hfresh other (Nat.le_trans hle hother) hbound).insert_of_ne hbound hgroup hne v

end Shared

/-! ### Carried fields -/

theorem carriedFields_of_error {carried : List CarriedField} {row : Row} {e : Error}
    (h : carriedBlob carried row = .error e) : Memory.carriedFields carried row = .error e := by
  rcases bind_eq_error.1 h with hfields | ⟨fields, hfields, hencode⟩
  · rw [Memory.carriedFields, hfields]
    rfl
  · rw [Memory.carriedFields, hfields, ok_bind, hencode]
    rfl

theorem carriedFields_of_ok {carried : List CarriedField} {row : Row} {blob : Bytes}
    (h : carriedBlob carried row = .ok blob) :
    ∃ fields, fields.length = carried.length ∧ Blob.encode fields = .ok blob ∧
      Memory.carriedFields carried row = (Arena.entry blob).map fun _ ↦ fields := by
  obtain ⟨fields, hfields, hencode⟩ := bind_eq_ok.1 h
  refine ⟨fields, length_of_mapM hfields, hencode, ?_⟩
  rw [Memory.carriedFields, hfields, ok_bind, hencode, ok_bind]

/-! ### What a row can change -/

section

variable [NumberReader]

/-- The first row of a group adds to the arena or to the set or changes nothing that groups
share. -/
theorem start_cases (a : Aggregator) (row : Row) :
    (a.start row).1 = a ∨
      (∃ goal field carried blob, a.aggregate = .bestRow goal field carried ∧
        (a.start row).1 = { a with arena := (a.arena.store blob).1 }) ∨
      ∃ field column value, a.aggregate = .distinct field column ∧
        (a.start row).1 = { a with
          seen := a.seen.insert (sighting a.nextGroup value), nextGroup := a.nextGroup + 1 } := by
  obtain ⟨aggregate, arena, seen, nextGroup⟩ := a
  cases aggregate with
  | nothing | count | sum | extremum => exact .inl rfl
  | bestRow goal field carried =>
    unfold start
    dsimp only
    cases number row field with
    | error e => exact .inl rfl
    | ok x =>
      cases carriedBlob carried row with
      | error e => exact .inl rfl
      | ok blob => exact .inr (.inl ⟨goal, field, carried, blob, rfl, rfl⟩)
  | distinct field column =>
    unfold start
    dsimp only
    split
    · exact .inl rfl
    · cases row.field field with
      | error e => exact .inl rfl
      | ok value => exact .inr (.inr ⟨field, column, value, rfl, rfl⟩)

/-- A further row changes a blob or adds to the set or changes nothing that groups share. -/
theorem absorb_cases (a : Aggregator) (row : Row) (s : Accumulator) :
    (a.absorb row s).state.1 = a ∨
      (∃ handle blob arena, a.arena.update handle blob = .ok arena ∧
        (a.absorb row s).state.1 = { a with arena }) ∨
      ∃ group value,
        (a.absorb row s).state.1 = { a with seen := a.seen.insert (sighting group value) } := by
  unfold absorb
  split
  case h_2 => split <;> exact .inl rfl
  case h_3 | h_4 => cases number row _ <;> exact .inl rfl
  case h_5 goal field carried best handle _ =>
    split
    · exact .inl rfl
    · split
      · exact .inl rfl
      · refine Step.ofExcept_invariant (p := fun q : Aggregator × Accumulator ↦ q.1 = a ∨
          (∃ handle blob arena, a.arena.update handle blob = .ok arena ∧ q.1 = { a with arena }) ∨
          ∃ group value, q.1 = { a with seen := a.seen.insert (sighting group value) })
          (.inl rfl) fun q hq ↦ ?_
        obtain ⟨blob, -, hq⟩ := bind_eq_ok.1 hq
        obtain ⟨arena, hupdate, hq⟩ := bind_eq_ok.1 hq
        cases hq
        exact .inr (.inl ⟨handle, blob, arena, hupdate, rfl⟩)
  case h_6 field _ group count _ =>
    cases row.field field with
    | error e => exact .inl rfl
    | ok value =>
      dsimp only
      split
      · exact .inl rfl
      · split
        · exact .inr (.inr ⟨group, value, rfl⟩)
        · exact .inl rfl
  all_goals exact .inl rfl

@[simp] theorem start_aggregate (a : Aggregator) (row : Row) :
    (a.start row).1.aggregate = a.aggregate := by
  rcases a.start_cases row with h | ⟨_, _, _, _, -, h⟩ | ⟨_, _, _, -, h⟩ <;> rw [h]

@[simp] theorem absorb_aggregate (a : Aggregator) (row : Row) (s : Accumulator) :
    (a.absorb row s).state.1.aggregate = a.aggregate := by
  rcases a.absorb_cases row s with h | ⟨_, _, _, -, h⟩ | ⟨_, _, h⟩ <;> rw [h]

/-! ## The first row of a group -/

/-- What is known about groups stays when another one begins, also if its first row is
refused.  If it is taken in, the new group is remembered, under a ticket of its own. -/
structure Starts (a : Aggregator) (kept : List (Option Bytes)) (row : Row)
    (kept' : List (Option Bytes)) : Prop where
  sound : (a.start row).1.Sound kept'
  others : ∀ m t, a.Recalls kept m t → (a.start row).1.Recalls kept' m t
  recalls : ∀ s, (a.start row).2 = .ok s → ∃ m, Memory.start a.aggregate row = .ok m ∧
    (a.start row).1.Recalls kept' m s ∧ ∀ m' t, a.Recalls kept m' t → t.Apart s

/-- Without a ticket nothing is shared. -/
theorem starts_of_no_ticket {a : Aggregator} {kept : List (Option Bytes)} {row : Row}
    {begun : Except Error Accumulator} (ha : a.Sound kept) (hstart : a.start row = (a, begun))
    (hbegun : ∀ s, begun = .ok s → s.ticket? = none ∧
      ∃ m, Memory.start a.aggregate row = .ok m ∧ a.Recalls kept m s) :
    Starts a kept row kept := by
  refine ⟨?_, ?_, ?_⟩ <;> rw [hstart]
  · exact ha
  · exact fun _ _ ht ↦ ht
  · intro s hs
    obtain ⟨hnone, m, hm, hrecalls⟩ := hbegun s hs
    refine ⟨m, hm, hrecalls, fun _ _ _ n _ hsome ↦ ?_⟩
    rw [hnone] at hsome
    cases hsome

/-- Nor if the row is refused before anything is kept. -/
theorem starts_of_error {a : Aggregator} {kept : List (Option Bytes)} {row : Row} {e : Error}
    (ha : a.Sound kept) (hstart : a.start row = (a, .error e)) : Starts a kept row kept :=
  starts_of_no_ticket ha hstart fun _ hs ↦ by cases hs

section Start

variable {arena : Arena} {seen : Std.TreeSet Bytes} {nextGroup : Nat} {kept : List (Option Bytes)}

theorem starts_bestRow {goal : Goal} {field : Nat} {carried : List CarriedField}
    (ha : Sound ⟨.bestRow goal field carried, arena, seen, nextGroup⟩ kept) (row : Row) :
    ∃ kept', Starts ⟨.bestRow goal field carried, arena, seen, nextGroup⟩ kept row kept' := by
  cases hx : number row field with
  | error e => exact ⟨kept, starts_of_error (e := e) ha (by simp only [start, hx])⟩
  | ok x =>
    cases hblob : carriedBlob carried row with
    | error e => exact ⟨kept, starts_of_error (e := e) ha (by simp only [start, hx, hblob])⟩
    | ok blob =>
      obtain ⟨harena, hlt, hfresh⟩ := ha
      obtain ⟨fields, hlength, hencode, hfields⟩ := carriedFields_of_ok hblob
      obtain ⟨more, hstores, hhandle⟩ := harena.store blob
      have hstart : start ⟨.bestRow goal field carried, arena, seen, nextGroup⟩ row =
          (⟨.bestRow goal field carried, (arena.store blob).1, seen, nextGroup⟩,
            (arena.store blob).2.map (.bestRow x)) := by
        simp only [start, hx, hblob]
      refine ⟨kept ++ more, ?_, ?_, ?_⟩ <;> rw [hstart]
      · exact ⟨hstores, hlt, hfresh⟩
      · exact fun _ _ ht ↦ ht.append more
      · intro s hs
        obtain ⟨handle, hok, rfl⟩ := map_eq_ok.1 hs
        obtain ⟨rfl, rfl⟩ := hhandle handle hok
        obtain ⟨e, he⟩ := Arena.entry_of_store hok
        refine ⟨.bestRow x fields, ?_, .bestRow hlength hencode List.getElem?_concat_length,
          fun _ _ ht ↦ ht.apart_new⟩
        rw [Memory.start, hx, ok_bind, hfields, he]
        rfl

theorem starts_distinct {field column : Nat}
    (ha : Sound ⟨.distinct field column, arena, seen, nextGroup⟩ kept) (row : Row) :
    Starts ⟨.distinct field column, arena, seen, nextGroup⟩ kept row kept := by
  by_cases hfull : 1 <<< 32 ≤ nextGroup + 1
  · exact starts_of_error ha (if_pos hfull)
  · cases hvalue : row.field field with
    | error e => exact starts_of_error (e := e) ha (by simp only [start, if_neg hfull, hvalue])
    | ok value =>
      obtain ⟨harena, hlt, hfresh⟩ := ha
      have hstart : start ⟨.distinct field column, arena, seen, nextGroup⟩ row =
          (⟨.distinct field column, arena, seen.insert (sighting nextGroup value), nextGroup + 1⟩,
            .ok (.distinct nextGroup 1)) := by
        simp only [start, if_neg hfull, hvalue]
      have hsaw : Saw (seen.insert (sighting nextGroup value)) nextGroup [value] :=
        (hfresh nextGroup (Nat.le_refl _) hlt).insert hlt value
      have hfresh' := fresh_of_sighting hfresh (Nat.le_succ _) (Nat.lt_succ_self _) hlt value
      refine ⟨?_, ?_, ?_⟩ <;> rw [hstart]
      · exact ⟨harena, Nat.lt_of_not_le hfull, hfresh'⟩
      · exact fun _ _ ht ↦
          ht.of_sighting (Nat.le_succ _) hlt hlt (fun _ _ hother ↦ Nat.ne_of_lt hother) value
      · rintro s ⟨⟩
        refine ⟨.distinct [value], by rw [Memory.start, hvalue]; rfl,
          .distinct (Nat.lt_succ_self _) hsaw, fun _ t ht ↦ ?_⟩
        cases ht with
        | distinct hgroup _ =>
          rintro n ⟨⟩ ⟨⟩
          exact Nat.lt_irrefl _ hgroup

end Start

theorem exists_starts {a : Aggregator} {kept : List (Option Bytes)} (ha : a.Sound kept)
    (row : Row) : ∃ kept', Starts a kept row kept' := by
  obtain ⟨aggregate, arena, seen, nextGroup⟩ := a
  cases aggregate with
  | nothing =>
    refine ⟨kept, starts_of_no_ticket ha rfl ?_⟩
    rintro s ⟨⟩
    exact ⟨rfl, .nothing, rfl, .nothing⟩
  | count column =>
    refine ⟨kept, starts_of_no_ticket ha rfl ?_⟩
    rintro s ⟨⟩
    exact ⟨rfl, .count 1, rfl, .count⟩
  | sum field column =>
    refine ⟨kept, starts_of_no_ticket ha rfl fun s hs ↦ ?_⟩
    obtain ⟨x, hx, rfl⟩ := map_eq_ok.1 hs
    exact ⟨rfl, _, map_eq_ok.2 ⟨x, hx, rfl⟩, .sum⟩
  | extremum goal field column =>
    refine ⟨kept, starts_of_no_ticket ha rfl fun s hs ↦ ?_⟩
    obtain ⟨x, hx, rfl⟩ := map_eq_ok.1 hs
    exact ⟨rfl, _, map_eq_ok.2 ⟨x, hx, rfl⟩, .extremum⟩
  | bestRow goal field carried => exact starts_bestRow ha row
  | distinct field column => exact ⟨kept, starts_distinct ha row⟩

/-! ## A further row of a group -/

/-- A further row does with the memory of its group what `Memory.absorb` does.  The ticket
stays, and so does what is known about other groups. -/
structure Absorbs (a : Aggregator) (kept : List (Option Bytes)) (row : Row) (m : Memory)
    (s : Accumulator) (kept' : List (Option Bytes)) : Prop where
  sound : (a.absorb row s).state.1.Sound kept'
  outcome_eq : (a.absorb row s).outcome = (m.absorb a.aggregate row).outcome
  recalls : (a.absorb row s).state.1.Recalls kept' (m.absorb a.aggregate row).state
    (a.absorb row s).state.2
  ticket_eq : (a.absorb row s).state.2.ticket? = s.ticket?
  others : ∀ m' t, a.Recalls kept m' t → t.Apart s → (a.absorb row s).state.1.Recalls kept' m' t

theorem absorbs_of_eq {a a' : Aggregator} {kept kept' : List (Option Bytes)} {row : Row}
    {m m' : Memory} {s s' : Accumulator} {outcome : Except Error Unit}
    (habsorb : a.absorb row s = ⟨(a', s'), outcome⟩)
    (hmemory : m.absorb a.aggregate row = ⟨m', outcome⟩) (hsound : a'.Sound kept')
    (hs : a'.Recalls kept' m' s') (hticket : s'.ticket? = s.ticket?)
    (hothers : ∀ n t, a.Recalls kept n t → t.Apart s → a'.Recalls kept' n t) :
    Absorbs a kept row m s kept' where
  sound := habsorb ▸ hsound
  outcome_eq := by rw [habsorb, hmemory]
  recalls := by
    rw [habsorb, hmemory]
    exact hs
  ticket_eq := habsorb ▸ hticket
  others := habsorb ▸ hothers

/-- The aggregator can stay as it is. -/
theorem absorbs_of_same {a : Aggregator} {kept : List (Option Bytes)} {row : Row} {m m' : Memory}
    {s s' : Accumulator} {outcome : Except Error Unit} (ha : a.Sound kept)
    (habsorb : a.absorb row s = ⟨(a, s'), outcome⟩)
    (hmemory : m.absorb a.aggregate row = ⟨m', outcome⟩) (hs : a.Recalls kept m' s')
    (hticket : s'.ticket? = s.ticket?) : Absorbs a kept row m s kept :=
  absorbs_of_eq habsorb hmemory ha hs hticket fun _ _ ht _ ↦ ht

section Absorb

variable {arena : Arena} {seen : Std.TreeSet Bytes} {nextGroup : Nat} {kept : List (Option Bytes)}

/-- A better value is kept even if the carried fields of its row are not. -/
theorem absorbs_bestRow {goal : Goal} {field handle : Nat} {carried : List CarriedField}
    {best : Numeric} {fields : List Bytes} {blob : Bytes}
    (ha : Sound ⟨.bestRow goal field carried, arena, seen, nextGroup⟩ kept)
    (hlength : fields.length = carried.length) (hencoded : Blob.encode fields = .ok blob)
    (hkept : kept[handle]? = some (some blob)) (row : Row) :
    ∃ kept', Absorbs ⟨.bestRow goal field carried, arena, seen, nextGroup⟩ kept row
      (.bestRow best fields) (.bestRow best handle) kept' := by
  cases hx : number row field with
  | error e =>
    exact ⟨kept, absorbs_of_same ha (by simp only [absorb, hx]; rfl)
      (by simp only [Memory.absorb, hx]; rfl) (.bestRow hlength hencoded hkept) rfl⟩
  | ok x =>
    cases hbetter : best.improvement? goal x with
    | none =>
      exact ⟨kept, absorbs_of_same ha (by simp only [absorb, hx, hbetter]; rfl)
        (by simp only [Memory.absorb, hx, hbetter]; rfl) (.bestRow hlength hencoded hkept) rfl⟩
    | some better =>
      cases hnew : carriedBlob carried row with
      | error e =>
        have habsorb : absorb ⟨.bestRow goal field carried, arena, seen, nextGroup⟩ row
            (.bestRow best handle) =
            .failed (⟨.bestRow goal field carried, arena, seen, nextGroup⟩,
              .bestRow better handle) e := by
          simp only [absorb, hx, hbetter, hnew]
          rfl
        have hmemory : Memory.absorb (.bestRow goal field carried) row (.bestRow best fields) =
            .failed (.bestRow better fields) e := by
          simp only [Memory.absorb, hx, hbetter, carriedFields_of_error hnew]
          rfl
        exact ⟨kept, absorbs_of_same ha habsorb hmemory (.bestRow hlength hencoded hkept) rfl⟩
      | ok new =>
        obtain ⟨fields', hlength', hencoded', hfields⟩ := carriedFields_of_ok hnew
        by_cases hshort : new.length < 1 <<< 32
        · obtain ⟨arena', hupdate, hstores⟩ := ha.arena.update_eq_ok hkept hshort
          have habsorb : absorb ⟨.bestRow goal field carried, arena, seen, nextGroup⟩ row
              (.bestRow best handle) =
              .done (⟨.bestRow goal field carried, arena', seen, nextGroup⟩,
                .bestRow better handle) := by
            simp only [absorb, hx, hbetter, hnew, ok_bind, hupdate]
            rfl
          have hmemory : Memory.absorb (.bestRow goal field carried) row (.bestRow best fields) =
              .done (.bestRow better fields') := by
            simp only [Memory.absorb, hx, hbetter, hfields, Arena.entry_eq_ok hshort]
            rfl
          have hlt : handle < kept.length := (List.getElem?_eq_some_iff.1 hkept).1
          exact ⟨kept.set handle (some new), absorbs_of_eq habsorb hmemory
            ⟨hstores, ha.nextGroup_lt, ha.fresh⟩
            (.bestRow hlength' hencoded' (List.getElem?_set_self hlt)) rfl
            fun _ _ ht hapart ↦ ht.of_update hapart new⟩
        · have habsorb : absorb ⟨.bestRow goal field carried, arena, seen, nextGroup⟩ row
              (.bestRow best handle) =
              .failed (⟨.bestRow goal field carried, arena, seen, nextGroup⟩,
                .bestRow better handle) (.keyTooLong new.length) := by
            simp only [absorb, hx, hbetter, hnew, ok_bind, ha.arena.update_eq_error hkept hshort]
            rfl
          have hmemory : Memory.absorb (.bestRow goal field carried) row (.bestRow best fields) =
              .failed (.bestRow better fields) (.keyTooLong new.length) := by
            simp only [Memory.absorb, hx, hbetter, hfields, Arena.entry, if_neg hshort]
            rfl
          exact ⟨kept, absorbs_of_same ha habsorb hmemory (.bestRow hlength hencoded hkept) rfl⟩

theorem absorbs_distinct {field column group : Nat} {values : List Bytes}
    (ha : Sound ⟨.distinct field column, arena, seen, nextGroup⟩ kept) (hgroup : group < nextGroup)
    (saw : Saw seen group values) (row : Row) :
    Absorbs ⟨.distinct field column, arena, seen, nextGroup⟩ kept row (.distinct values)
      (.distinct group values.dedup.length) kept := by
  cases hvalue : row.field field with
  | error e =>
    exact absorbs_of_same ha (by simp only [absorb, hvalue]; rfl)
      (by simp only [Memory.absorb, hvalue]; rfl) (.distinct hgroup saw) rfl
  | ok value =>
    by_cases hmem : value ∈ values
    · have hsame := length_dedup_snoc_of_mem hmem
      have habsorb : absorb ⟨.distinct field column, arena, seen, nextGroup⟩ row
          (.distinct group values.dedup.length) =
          .done (⟨.distinct field column, arena, seen, nextGroup⟩,
            .distinct group (values ++ [value]).dedup.length) := by
        rw [hsame]
        simp only [absorb, hvalue, if_pos (saw.contains_iff.2 hmem)]
      exact absorbs_of_same ha habsorb
        (by simp only [Memory.absorb, hvalue, if_pos (Or.inl hmem)]; rfl)
        (.distinct hgroup (saw.snoc_of_mem hmem)) rfl
    · have hunseen := mt saw.contains_iff.1 hmem
      by_cases hroom : values.dedup.length < maxDistinct
      · have habsorb : absorb ⟨.distinct field column, arena, seen, nextGroup⟩ row
            (.distinct group values.dedup.length) =
            .done (⟨.distinct field column, arena, seen.insert (sighting group value), nextGroup⟩,
              .distinct group (values.dedup.length + 1)) := by
          simp only [absorb, hvalue, if_neg hunseen, if_pos hroom]
        have hmemory : Memory.absorb (.distinct field column) row (.distinct values) =
            .done (.distinct (values ++ [value])) := by
          simp only [Memory.absorb, hvalue, if_pos (Or.inr hroom)]
        have hbound : group < 1 <<< 32 := Nat.lt_trans hgroup ha.nextGroup_lt
        have hfresh := fresh_of_sighting ha.fresh (Nat.le_refl _) hgroup hbound value
        refine absorbs_of_eq habsorb hmemory ⟨ha.arena, ha.nextGroup_lt, hfresh⟩ ?_ rfl ?_
        · rw [← length_dedup_snoc_of_notMem hmem]
          exact .distinct hgroup (saw.insert hbound value)
        · exact fun _ t ht hapart ↦ ht.of_sighting (Nat.le_refl _) ha.nextGroup_lt hbound
            (fun other hticket _ heq ↦ hapart other hticket (congrArg some heq.symm)) value
      · have hfull : ¬ (value ∈ values ∨ values.dedup.length < maxDistinct) :=
          fun h ↦ h.elim hmem hroom
        exact absorbs_of_same ha
          (by simp only [absorb, hvalue, if_neg hunseen, if_neg hroom]; rfl)
          (by simp only [Memory.absorb, hvalue, if_neg hfull]; rfl) (.distinct hgroup saw) rfl

end Absorb

theorem exists_absorbs {a : Aggregator} {kept : List (Option Bytes)} {m : Memory} {s : Accumulator}
    (ha : a.Sound kept) (hs : a.Recalls kept m s) (row : Row) :
    ∃ kept', Absorbs a kept row m s kept' := by
  obtain ⟨aggregate, arena, seen, nextGroup⟩ := a
  cases hs with
  | nothing => exact ⟨kept, absorbs_of_same ha rfl rfl .nothing rfl⟩
  | @count column rows =>
    by_cases hroom : rows < maxRows
    · exact ⟨kept, absorbs_of_same ha (if_pos hroom) (if_pos hroom) .count rfl⟩
    · exact ⟨kept, absorbs_of_same ha (if_neg hroom) (if_neg hroom) .count rfl⟩
  | @sum field column x =>
    cases hy : number row field with
    | error e => exact ⟨kept, absorbs_of_same ha (by simp only [absorb, hy]; rfl)
        (by simp only [Memory.absorb, hy]; rfl) .sum rfl⟩
    | ok y =>
      have habsorb : absorb ⟨.sum field column, arena, seen, nextGroup⟩ row (.number x) =
          .done (⟨.sum field column, arena, seen, nextGroup⟩, .number (x.add y)) := by
        simp only [absorb, hy]
        rfl
      exact ⟨kept, absorbs_of_same ha habsorb (by simp only [Memory.absorb, hy]; rfl) .sum rfl⟩
  | @extremum goal field column x =>
    cases hy : number row field with
    | error e => exact ⟨kept, absorbs_of_same ha (by simp only [absorb, hy]; rfl)
        (by simp only [Memory.absorb, hy]; rfl) .extremum rfl⟩
    | ok y =>
      have habsorb : absorb ⟨.extremum goal field column, arena, seen, nextGroup⟩ row
          (.number x) = .done (⟨.extremum goal field column, arena, seen, nextGroup⟩,
            .number (x.improve goal y)) := by
        simp only [absorb, hy]
        rfl
      exact ⟨kept, absorbs_of_same ha habsorb (by simp only [Memory.absorb, hy]; rfl) .extremum
        rfl⟩
  | bestRow hlength hencoded hkept => exact absorbs_bestRow ha hlength hencoded hkept row
  | distinct hgroup saw => exact ⟨kept, absorbs_distinct ha hgroup saw row⟩

end

/-! ## Printing a group -/

/-- What is printed for a group is what is printed of its memory. -/
theorem Recalls.results_eq {a : Aggregator} {kept : List (Option Bytes)} {m : Memory}
    {s : Accumulator} (h : a.Recalls kept m s) (ha : a.Sound kept) :
    a.results s = .ok (m.entries a.aggregate) := by
  obtain ⟨aggregate, arena, seen, nextGroup⟩ := a
  cases h with
  | nothing | count | sum | extremum | distinct => rfl
  | @bestRow goal field handle carried x fields blob hlength hencoded hkept =>
    have hdecode : Blob.decode carried.length blob = .ok fields :=
      hlength ▸ Blob.decode_of_encode hencoded
    exact bind_eq_ok.2 ⟨blob, ha.arena.load_eq_ok hkept, bind_eq_ok.2 ⟨fields, hdecode, rfl⟩⟩

/-- A memory is printed in the columns of its aggregate. -/
theorem Recalled.columns_eq {kept : List (Option Bytes)} {seen : Std.TreeSet Bytes}
    {nextGroup : Nat} {aggregate : Aggregate} {m : Memory} {s : Accumulator}
    (h : Recalled kept seen nextGroup aggregate m s) :
    (m.entries aggregate).map Prod.fst = aggregate.columns := by
  cases h with
  | nothing | count | sum | extremum | distinct => rfl
  | bestRow hlength _ _ => exact List.map_fst_zip (by rw [List.length_map, hlength])

/-! ### A single group

What a single group has to do with the others does not matter any more. -/

/-- The aggregator shows this memory of a group by the group's accumulator. -/
def Shows (a : Aggregator) (m : Memory) (s : Accumulator) : Prop :=
  ∃ kept, a.Sound kept ∧ a.Recalls kept m s

namespace Shows

variable {a : Aggregator} {m : Memory} {s : Accumulator}

theorem results_eq (h : a.Shows m s) : a.results s = .ok (m.entries a.aggregate) := by
  obtain ⟨kept, ha, hs⟩ := h
  exact Recalls.results_eq hs ha

theorem columns_eq (h : a.Shows m s) :
    (m.entries a.aggregate).map Prod.fst = a.aggregate.columns := by
  obtain ⟨kept, -, hs⟩ := h
  exact hs.columns_eq

/-- Whether a further row is taken in, and why not, depends on the memory alone. -/
theorem outcome_eq [NumberReader] (h : a.Shows m s) (row : Row) :
    (a.absorb row s).outcome = (m.absorb a.aggregate row).outcome := by
  obtain ⟨kept, ha, hs⟩ := h
  obtain ⟨kept', habsorbs⟩ := exists_absorbs ha hs row
  exact habsorbs.outcome_eq

theorem absorb [NumberReader] (h : a.Shows m s) (row : Row) :
    (a.absorb row s).state.1.Shows (m.absorb a.aggregate row).state
      (a.absorb row s).state.2 := by
  obtain ⟨kept, ha, hs⟩ := h
  obtain ⟨kept', habsorbs⟩ := exists_absorbs ha hs row
  exact ⟨kept', habsorbs.sound, habsorbs.recalls⟩

end Shows

/-! ## A lone group

A new aggregator that sees the rows of one group only. -/

variable [NumberReader]

/-- What a new aggregator knows after the rows of a single group. -/
def lone (aggregate : Aggregate) : List Row → Except Error (Aggregator × Accumulator)
  | [] => .error .noData
  | first :: rest => do
    let begun := (new aggregate).start first
    let s ← begun.2
    rest.foldlM (fun (a, s) row ↦ (a.absorb row s).result) (begun.1, s)

/-- What a new aggregator prints after the rows of a single group. -/
def alone (aggregate : Aggregate) (rows : List Row) : Except Error (List (Nat × Bytes)) := do
  let (a, s) ← lone aggregate rows
  a.results s

theorem lone_singleton (aggregate : Aggregate) (row : Row) :
    lone aggregate [row] =
      ((new aggregate).start row).2.map fun s ↦ (((new aggregate).start row).1, s) := by
  rw [lone]
  cases ((new aggregate).start row).2 <;> rfl

theorem lone_snoc {aggregate : Aggregate} {rows : List Row} (hne : rows ≠ []) (row : Row) :
    lone aggregate (rows ++ [row]) =
      lone aggregate rows >>= fun (a, s) ↦ (a.absorb row s).result := by
  cases rows with
  | nil => exact absurd rfl hne
  | cons first rest =>
    simp only [List.cons_append, lone, List.foldlM_append, List.foldlM_cons, List.foldlM_nil,
      bind_pure, bind_assoc]

/-- A new aggregator has numbers and handles enough for a group. -/
theorem verdict_start_new (aggregate : Aggregate) (row : Row) :
    verdict ((new aggregate).start row).2 = verdict (Memory.start aggregate row) := by
  cases aggregate with
  | nothing | count column => rfl
  | sum field column | extremum goal field column =>
    exact (verdict_map _ _).trans (verdict_map _ _).symm
  | bestRow goal field carried =>
    simp only [new, start, Memory.start]
    cases number row field with
    | error e => rfl
    | ok x =>
      rw [ok_bind]
      cases hblob : carriedBlob carried row with
      | error e =>
        rw [carriedFields_of_error hblob]
        rfl
      | ok blob =>
        obtain ⟨fields, -, -, hfields⟩ := carriedFields_of_ok hblob
        rw [hfields, verdict_map, verdict_map, verdict_map]
        exact Arena.verdict_store (by decide) blob
  | distinct field column =>
    cases hvalue : row.field field <;> simp [start, new, Memory.start, hvalue] <;> rfl

/-- A lone group goes through the memories of its rows. -/
theorem lone_alike (aggregate : Aggregate) (rows : List Row) :
    Alike (fun (p : Aggregator × Accumulator) m ↦ p.1.aggregate = aggregate ∧ p.1.Shows m p.2)
      (lone aggregate rows) (Memory.ofRows aggregate rows) := by
  induction rows using List.reverseRecOn with
  | nil => rfl
  | append_singleton rows row ih =>
    by_cases hne : rows = []
    · subst hne
      rw [List.nil_append, lone_singleton, Memory.ofRows_singleton]
      obtain ⟨kept, hstarts⟩ := exists_starts (sound_new aggregate) row
      refine Alike.of_verdict ((verdict_map _ _).trans (verdict_start_new aggregate row)) ?_
      intro p m hp hm
      obtain ⟨s, hs, rfl⟩ := map_eq_ok.1 hp
      obtain ⟨m', hm', hrecalls, -⟩ := hstarts.recalls s hs
      cases hm.symm.trans hm'
      exact ⟨start_aggregate .., kept, hstarts.sound, hrecalls⟩
    · rw [lone_snoc hne, Memory.ofRows_snoc hne]
      refine ih.bind fun p m ⟨haggregate, hshows⟩ ↦ ?_
      obtain ⟨a, s⟩ := p
      subst haggregate
      exact Step.Alike.result ⟨hshows.outcome_eq row, absorb_aggregate .., hshows.absorb row⟩

theorem lone_ok {aggregate : Aggregate} {rows : List Row} {a : Aggregator} {s : Accumulator}
    (h : lone aggregate rows = .ok (a, s)) :
    a.aggregate = aggregate ∧ ∃ m, Memory.ofRows aggregate rows = .ok m ∧ a.Shows m s := by
  obtain ⟨m, hm, haggregate, hshows⟩ := (lone_alike aggregate rows).of_ok h
  exact ⟨haggregate, m, hm, hshows⟩

/-- A lone group takes in what can be remembered. -/
theorem exists_lone_iff {aggregate : Aggregate} {rows : List Row} :
    (∃ p, lone aggregate rows = .ok p) ↔ ∃ m, Memory.ofRows aggregate rows = .ok m := by
  rw [← verdict_eq_ok, ← verdict_eq_ok, (lone_alike aggregate rows).verdict_eq]

/-- What is printed for a group is what it prints alone. -/
theorem alone_eq_of_prints {aggregate : Aggregate} {rows : List Row} {m : Memory}
    {entries : List (Nat × Bytes)} (h : Memory.ofRows aggregate rows = .ok m)
    (hprints : aggregate.Prints rows entries) : alone aggregate rows = .ok entries := by
  obtain ⟨⟨a, s⟩, hlone⟩ := exists_lone_iff.2 ⟨m, h⟩
  obtain ⟨rfl, m', hm', hshows⟩ := lone_ok hlone
  cases h.symm.trans hm'
  rw [← (Memory.tells_of_ofRows h).prints.unique hprints]
  exact bind_eq_ok.2 ⟨_, hlone, hshows.results_eq⟩

end Aggregator

end Rollup
