import Mathlib.Data.List.Perm.Basic
import Mathlib.Logic.Function.Basic
import Mathlib.Tactic.ByContra
import Rollup.Proofs.Table.Bundle
import Rollup.Proofs.Table.Counters
import Rollup.Table.Grouping

/-!
# Every group knows its own rows

Rows belong to the same group if they agree on the key fields, their *tuple*.
A group's byte string is a code of its tuple (`Grouping.code`), and tuples of
the same length have different codes (`Grouping.code_inj`).

`Grouping.Knows slot groups memories` says that a slot shows the memory of every
group.  This lasts whatever becomes of a row: its group gets the memory that the row
leads to, and the others keep theirs (`Knows.insert_of_continues`).

`Grouping.Tracks g slots past` says that all rows were taken in: the memories of every
slot are those of the rows `past` of each group, and a code has a group exactly if it
has rows.  A row that is taken in keeps this up with one more row in its group
and none in the others (`push_tracks`), whatever the order of the groups.  What
becomes of any row, taken in or refused, is said by `push_goes`.
-/

namespace Rollup

open Outcome Aggregator

namespace Grouping

/-! ## Tuples and their codes -/

/-- The key fields of a row, in order. -/
def tuple (keys : List Key) (row : Row) : Except Error (List Bytes) :=
  keys.mapM fun key ↦ row.field key.field

/-- The byte string of the group with these key fields. -/
def code : List Bytes → Except Error Bytes
  | [] => .ok []
  | [value] => .ok value
  | value :: next :: rest => Key.encodeFields (value :: next :: rest)

theorem length_of_tuple {keys : List Key} {row : Row} {t : List Bytes}
    (h : tuple keys row = .ok t) : t.length = keys.length := length_of_mapM h

theorem keyOf_eq_ok {keys : List Key} {row : Row} {k : Bytes} :
    keyOf keys row = .ok k ↔ ∃ t, tuple keys row = .ok t ∧ code t = .ok k := by
  match keys with
  | [] =>
    constructor
    · rintro ⟨⟩
      exact ⟨[], rfl, rfl⟩
    · rintro ⟨t, ht, hk⟩
      cases ht
      exact hk
  | [key] =>
    constructor
    · intro h
      exact ⟨[k], mapM_cons_eq_ok.2 ⟨k, [], h, rfl, rfl⟩, rfl⟩
    · rintro ⟨t, ht, hk⟩
      obtain ⟨v, vs, hv, hvs, rfl⟩ := mapM_cons_eq_ok.1 ht
      cases hvs
      cases hk
      exact hv
  | key :: next :: rest =>
    rw [keyOf, Key.serialize_eq_ok]
    · refine exists_congr fun t ↦ and_congr_right fun ht ↦ ?_
      obtain ⟨v, vs, -, hvs, rfl⟩ := mapM_cons_eq_ok.1 ht
      obtain ⟨w, ws, -, -, rfl⟩ := mapM_cons_eq_ok.1 hvs
      rfl
    · intro h
      cases h
    · intro key h
      cases h

theorem code_inj {t t' : List Bytes} {k : Bytes} (hlength : t.length = t'.length)
    (h : code t = .ok k) (h' : code t' = .ok k) : t = t' := by
  match t, t', hlength with
  | [], [], _ => rfl
  | [_], [_], _ =>
    cases h
    cases h'
    rfl
  | _ :: _ :: _, _ :: _ :: _, _ => exact Key.encodeFields_inj h h'

/-- The key columns of a group show its tuple. -/
theorem keyColumns_of_code {keys : List Key} {t : List Bytes} {k : Bytes}
    (hlength : t.length = keys.length) (h : code t = .ok k) :
    keyColumns keys k = .ok ((keys.map Key.column).zip t) := by
  match keys, t, hlength with
  | [], [], _ => rfl
  | [_], [_], _ =>
    cases h
    rfl
  | _ :: _ :: _, _ :: _ :: _, _ =>
    rw [keyColumns, Key.decodeFields_of_encodeFields h]
    · rfl
    · intro h
      cases h
    · intro key h
      cases h

/-! ### The rows of a group -/

/-- Whether the row has these key fields. -/
def hasTuple (keys : List Key) (t : List Bytes) (row : Row) : Bool :=
  match tuple keys row with
  | .ok u => u = t
  | .error _ => false

/-- The rows with these key fields. -/
def members (keys : List Key) (t : List Bytes) (rows : List Row) : List Row :=
  rows.filter (hasTuple keys t)

theorem hasTuple_iff {keys : List Key} {t : List Bytes} {row : Row} :
    hasTuple keys t row = true ↔ tuple keys row = .ok t := by
  rw [hasTuple]
  cases tuple keys row <;> simp

/-- Whether the row belongs to the group with this code. -/
def hasCode (keys : List Key) (k : Bytes) (row : Row) : Bool :=
  match keyOf keys row with
  | .ok k' => k' = k
  | .error _ => false

/-- The rows of the group with this code. -/
def coded (keys : List Key) (rows : List Row) (k : Bytes) : List Row :=
  rows.filter (hasCode keys k)

theorem hasCode_iff {keys : List Key} {k : Bytes} {row : Row} :
    hasCode keys k row = true ↔ keyOf keys row = .ok k := by
  rw [hasCode]
  cases keyOf keys row <;> simp

/-- A row has the code of a tuple exactly if it has the tuple. -/
theorem keyOf_iff {keys : List Key} {t : List Bytes} {k : Bytes} {row : Row}
    (hlength : t.length = keys.length) (h : code t = .ok k) :
    keyOf keys row = .ok k ↔ tuple keys row = .ok t := by
  rw [keyOf_eq_ok]
  constructor
  · rintro ⟨u, hu, hk⟩
    rwa [code_inj (hlength.trans (length_of_tuple hu).symm) h hk]
  · exact fun ht ↦ ⟨t, ht, h⟩

theorem coded_eq_members {keys : List Key} {t : List Bytes} {k : Bytes}
    (hlength : t.length = keys.length) (h : code t = .ok k) (rows : List Row) :
    coded keys rows k = members keys t rows := by
  refine List.filter_congr fun row _ ↦ ?_
  rw [Bool.eq_iff_iff, hasCode_iff, hasTuple_iff, keyOf_iff hlength h]

theorem coded_snoc_self {keys : List Key} {row : Row} {k : Bytes} (h : keyOf keys row = .ok k)
    (rows : List Row) : coded keys (rows ++ [row]) k = coded keys rows k ++ [row] := by
  rw [coded, List.filter_append, List.filter_cons_of_pos (hasCode_iff.2 h)]
  rfl

theorem coded_snoc_of_ne {keys : List Key} {row : Row} {k k' : Bytes} (h : keyOf keys row = .ok k)
    (hne : k' ≠ k) (rows : List Row) : coded keys (rows ++ [row]) k' = coded keys rows k' := by
  have hother : ¬ hasCode keys k' row = true := by
    rw [hasCode_iff, h]
    exact fun heq ↦ hne (Except.ok.inj heq).symm
  rw [coded, List.filter_append, List.filter_cons_of_neg hother]
  exact List.append_nil _

/-! ## Groups -/

theorem getElem?_insert {groups : Std.TreeMap Bytes Buffer} {k k' : Bytes} {new : Buffer} :
    (groups.insert k new)[k']? = if k = k' then some new else groups[k']? := by
  simp [Std.TreeMap.getElem?_insert]

/-- A buffer is the one that was inserted, or belongs to another group. -/
theorem new_or_old {groups : Std.TreeMap Bytes Buffer} {k k' : Bytes} {new buffer : Buffer}
    (h : (groups.insert k new)[k']? = some buffer) :
    k' = k ∧ buffer = new ∨ k' ≠ k ∧ groups[k']? = some buffer := by
  rw [getElem?_insert] at h
  split at h
  · rename_i heq
    exact .inl ⟨heq.symm, (Option.some.inj h).symm⟩
  · rename_i hne
    exact .inr ⟨Ne.symm hne, h⟩

theorem mem_of_some {groups : Std.TreeMap Bytes Buffer} {k : Bytes} {buffer : Buffer}
    (h : groups[k]? = some buffer) : k ∈ groups :=
  Std.TreeMap.mem_iff_isSome_getElem?.2 (Option.isSome_of_eq_some h)

theorem mem_insert_iff {groups : Std.TreeMap Bytes Buffer} {k k' : Bytes} {new : Buffer} :
    k' ∈ groups.insert k new ↔ k = k' ∨ k' ∈ groups := by
  rw [Std.TreeMap.mem_insert, Std.LawfulEqCmp.compare_eq_iff_eq]

/-- A group that gets another buffer is no new one. -/
theorem mem_insert_of_some {groups : Std.TreeMap Bytes Buffer} {k k' : Bytes} {buffer new : Buffer}
    (h : groups[k]? = some buffer) : k' ∈ groups.insert k new ↔ k' ∈ groups := by
  rw [mem_insert_iff]
  exact ⟨fun hk' ↦ hk'.elim (fun heq ↦ heq ▸ mem_of_some h) id, .inr⟩

theorem eq_nil_of_none {groups : Std.TreeMap Bytes Buffer} {past : Bytes → List Row} {k : Bytes}
    (hmem : ∀ k, k ∈ groups ↔ past k ≠ []) (h : groups[k]? = none) : past k = [] := by
  by_contra hne
  have hk := (hmem k).2 hne
  rw [Std.TreeMap.mem_iff_isSome_getElem?, h] at hk
  cases hk

/-- The rows of one group have grown by one. -/
def Grown (past past' : Bytes → List Row) (k : Bytes) (row : Row) : Prop :=
  past' k = past k ++ [row] ∧ ∀ k', k' ≠ k → past' k' = past k'

theorem Grown.ne_nil_iff {past past' : Bytes → List Row} {k : Bytes} {row : Row}
    (h : Grown past past' k row) {groups : Std.TreeMap Bytes Buffer}
    (hmem : ∀ k, k ∈ groups ↔ past k ≠ []) (new : Buffer) (k' : Bytes) :
    k' ∈ groups.insert k new ↔ past' k' ≠ [] := by
  rw [mem_insert_iff]
  by_cases heq : k = k'
  · subst heq
    simp [h.1]
  · rw [h.2 k' (Ne.symm heq), ← hmem]
    simp [heq]

/-! ## What a slot knows of the groups -/

/-- With these blobs behind its handles the slot shows the memory of every group, and does
not mix up two groups. -/
structure Keeps (kept : List (Option Bytes)) (slot : Slot) (groups : Std.TreeMap Bytes Buffer)
    (memories : Bytes → Memory) : Prop where
  sound : slot.aggregator.Sound kept
  recalls : ∀ {k : Bytes} {buffer : Buffer}, groups[k]? = some buffer →
    ∃ s, slot.held buffer = .ok s ∧ slot.aggregator.Recalls kept (memories k) s
  apart : ∀ {k k' : Bytes} {buffer buffer' : Buffer} {s s' : Accumulator}, k ≠ k' →
    groups[k]? = some buffer → groups[k']? = some buffer' →
    slot.held buffer = .ok s → slot.held buffer' = .ok s' → s.Apart s'

/-- A group gets a buffer with another memory.  The other groups are still known, and stay
apart from this one. -/
theorem Keeps.insert {kept kept' : List (Option Bytes)} {slot slot' : Slot}
    {groups : Std.TreeMap Bytes Buffer} {memories : Bytes → Memory} {k : Bytes} {new : Buffer}
    {m : Memory} {s : Accumulator} (h : Keeps kept slot groups memories)
    (hplace : ∀ buffer, slot'.held buffer = slot.held buffer)
    (hsound : slot'.aggregator.Sound kept') (hheld : slot'.held new = .ok s)
    (hrecalls : slot'.aggregator.Recalls kept' m s)
    (hothers : ∀ {k' buffer t}, k' ≠ k → groups[k']? = some buffer → slot.held buffer = .ok t →
      slot.aggregator.Recalls kept (memories k') t →
      slot'.aggregator.Recalls kept' (memories k') t ∧ t.Apart s) :
    Keeps kept' slot' (groups.insert k new) (Function.update memories k m) := by
  have hall {k' : Bytes} {buffer : Buffer} (hne : k' ≠ k) (hk : groups[k']? = some buffer) :
      ∃ t, slot.held buffer = .ok t ∧ slot'.aggregator.Recalls kept' (memories k') t ∧
        t.Apart s := by
    obtain ⟨t, ht, hrec⟩ := h.recalls hk
    exact ⟨t, ht, hothers hne hk ht hrec⟩
  refine ⟨hsound, fun hk ↦ ?_, fun hne hk₁ hk₂ hs₁ hs₂ ↦ ?_⟩
  · rcases new_or_old hk with ⟨rfl, rfl⟩ | ⟨hne, hk⟩
    · rw [Function.update_self]
      exact ⟨s, hheld, hrecalls⟩
    · obtain ⟨t, ht, hrec, -⟩ := hall hne hk
      rw [hplace, Function.update_of_ne hne]
      exact ⟨t, ht, hrec⟩
  · rcases new_or_old hk₁ with ⟨rfl, rfl⟩ | ⟨hne₁, hold₁⟩ <;>
      rcases new_or_old hk₂ with ⟨rfl, rfl⟩ | ⟨hne₂, hold₂⟩
    · exact absurd rfl hne
    · obtain ⟨t, ht, -, hapart⟩ := hall hne₂ hold₂
      cases hheld.symm.trans hs₁
      cases ht.symm.trans ((hplace _).symm.trans hs₂)
      exact hapart.symm
    · obtain ⟨t, ht, -, hapart⟩ := hall hne₁ hold₁
      cases hheld.symm.trans hs₂
      cases ht.symm.trans ((hplace _).symm.trans hs₁)
      exact hapart
    · exact h.apart hne hold₁ hold₂ ((hplace _).symm.trans hs₁) ((hplace _).symm.trans hs₂)

/-- The slot shows the memory of every group. -/
def Knows (slot : Slot) (groups : Std.TreeMap Bytes Buffer) (memories : Bytes → Memory) : Prop :=
  ∃ kept, Keeps kept slot groups memories

variable {slot slot' : Slot} {groups : Std.TreeMap Bytes Buffer} {memories : Bytes → Memory}
  {past past' : Bytes → List Row} {k : Bytes} {row : Row} {old new : Buffer}
  {outcome : Except Error Unit}

/-- A new aggregator has no groups to know. -/
theorem knows_new (aggregate : Aggregate) (offset size : Nat) (memories : Bytes → Memory) :
    Knows ⟨.new aggregate, offset, size⟩ ∅ memories := by
  refine ⟨[], sound_new aggregate, fun hk ↦ ?_, fun _ hk ↦ ?_⟩ <;> simp at hk

namespace Knows

theorem shows (h : Knows slot groups memories) {buffer : Buffer} (hk : groups[k]? = some buffer) :
    ∃ s, slot.held buffer = .ok s ∧ slot.aggregator.Shows (memories k) s := by
  obtain ⟨kept, hkeeps⟩ := h
  obtain ⟨s, hs, hrecalls⟩ := hkeeps.recalls hk
  exact ⟨s, hs, kept, hkeeps.sound, hrecalls⟩

theorem clear (h : Knows slot groups memories) (memories' : Bytes → Memory) :
    Knows slot ∅ memories' := by
  obtain ⟨kept, hkeeps⟩ := h
  refine ⟨kept, hkeeps.sound, fun hk ↦ ?_, fun _ hk ↦ ?_⟩ <;> simp at hk

/-- Another buffer in which the slot holds the same is as good. -/
theorem insert_of_held_eq (h : Knows slot groups memories) (hk : groups[k]? = some old)
    (hheld : slot.held new = slot.held old) : Knows slot (groups.insert k new) memories := by
  have hbefore {k' : Bytes} {buffer : Buffer} (hk' : (groups.insert k new)[k']? = some buffer) :
      ∃ buffer', groups[k']? = some buffer' ∧ slot.held buffer = slot.held buffer' := by
    rcases new_or_old hk' with ⟨rfl, rfl⟩ | ⟨-, hk'⟩
    · exact ⟨old, hk, hheld⟩
    · exact ⟨buffer, hk', rfl⟩
  obtain ⟨kept, hkeeps⟩ := h
  refine ⟨kept, hkeeps.sound, fun hk' ↦ ?_, fun hne hk₁ hk₂ hs₁ hs₂ ↦ ?_⟩
  · obtain ⟨buffer, hbuffer, hsame⟩ := hbefore hk'
    rw [hsame]
    exact hkeeps.recalls hbuffer
  · obtain ⟨buffer₁, hbuffer₁, hsame₁⟩ := hbefore hk₁
    obtain ⟨buffer₂, hbuffer₂, hsame₂⟩ := hbefore hk₂
    exact hkeeps.apart hne hbuffer₁ hbuffer₂ (hsame₁ ▸ hs₁) (hsame₂ ▸ hs₂)

variable [NumberReader]

/-- Whether a slot takes in a further row, and why not, depends on the memory of its group. -/
theorem absorbSlot_outcome (h : Knows slot groups memories) {buffer : Buffer}
    (hk : groups[k]? = some buffer) (row : Row) : (Bundle.absorbSlot slot row buffer).outcome =
      ((memories k).absorb slot.aggregator.aggregate row).outcome := by
  obtain ⟨s, hheld, hshows⟩ := h.shows hk
  rw [Slot.held] at hheld
  rw [Bundle.absorbSlot, hheld]
  exact hshows.outcome_eq row

/-- The memory of a new group is that of its first row. -/
theorem insert_of_begins (h : Knows slot groups memories)
    (hshared : Bundle.Shared (Bundle.Begins row (.ok ())) old new slot slot') :
    ∃ m, Memory.start slot.aggregator.aggregate row = .ok m ∧
      Knows slot' (groups.insert k new) (Function.update memories k m) := by
  have hplace := hshared.held_eq
  obtain ⟨haggregator, hbegun⟩ := hshared.did
  obtain ⟨s, hs, hheld⟩ := hbegun rfl
  obtain ⟨kept, hkeeps⟩ := h
  obtain ⟨kept', hstarts⟩ := exists_starts hkeeps.sound row
  obtain ⟨m, hm, hrecalls, hapart⟩ := hstarts.recalls s hs
  rw [← haggregator] at hrecalls
  refine ⟨m, hm, kept', hkeeps.insert hplace (haggregator ▸ hstarts.sound)
    ((hplace new).trans hheld) hrecalls fun _ _ _ hrec ↦ ⟨?_, hapart _ _ hrec⟩⟩
  rw [haggregator]
  exact hstarts.others _ _ hrec

/-- A group that the slot has begun, and that does not come into being, is not noticed by
the others. -/
theorem of_begins (h : Knows slot groups memories)
    (hshared : Bundle.Shared (Bundle.Begins row outcome) old new slot slot') :
    Knows slot' groups memories := by
  have hplace := hshared.held_eq
  obtain ⟨haggregator, -⟩ := hshared.did
  obtain ⟨kept, hkeeps⟩ := h
  obtain ⟨kept', hstarts⟩ := exists_starts hkeeps.sound row
  refine ⟨kept', haggregator ▸ hstarts.sound, fun hk ↦ ?_, fun hne hk hk' hs hs' ↦ ?_⟩
  · obtain ⟨t, ht, hrecalls⟩ := hkeeps.recalls hk
    refine ⟨t, (hplace _).trans ht, ?_⟩
    rw [haggregator]
    exact hstarts.others _ _ hrecalls
  · exact hkeeps.apart hne hk hk' ((hplace _).symm.trans hs) ((hplace _).symm.trans hs')

/-- A further row, refused or not, changes the memory of its group only. -/
theorem insert_of_continues (h : Knows slot groups memories) (hk : groups[k]? = some old)
    (hshared : Bundle.Shared (Bundle.Continues row outcome) old new slot slot') :
    outcome = ((memories k).absorb slot.aggregator.aggregate row).outcome ∧
      Knows slot' (groups.insert k new) (Function.update memories k
        ((memories k).absorb slot.aggregator.aggregate row).state) := by
  have hplace := hshared.held_eq
  obtain ⟨kept, hkeeps⟩ := h
  obtain ⟨s, hs, hrecalls⟩ := hkeeps.recalls hk
  have hdid := hshared.did
  rw [hs] at hdid
  obtain ⟨houtcome, haggregator, hheld⟩ := hdid
  obtain ⟨kept', habsorbs⟩ := exists_absorbs hkeeps.sound hrecalls row
  refine ⟨houtcome.trans habsorbs.outcome_eq, kept', hkeeps.insert hplace
    (haggregator ▸ habsorbs.sound) ((hplace new).trans hheld) ?_ fun hne hbuffer ht hrec ↦ ?_⟩
  · rw [haggregator]
    exact habsorbs.recalls
  · have hapart := hkeeps.apart hne hbuffer hk ht hs
    rw [haggregator]
    exact ⟨habsorbs.others _ _ hrec hapart, fun n hn ↦ habsorbs.ticket_eq ▸ hapart n hn⟩

end Knows

/-! ## Tracking the rows of groups -/

/-- What does not change in a slot. -/
def place (slot : Slot) : Aggregate × Nat × Nat :=
  (slot.aggregator.aggregate, slot.offset, slot.size)

theorem wellPlaced_congr {slots slots' : List Slot} (h : slots'.map place = slots.map place)
    (hplaced : Bundle.WellPlaced slots) : Bundle.WellPlaced slots' := by
  have hpos (slots : List Slot) : (∀ slot ∈ slots, 0 < slot.size) ↔
      ∀ p ∈ slots.map place, 0 < p.2.2 := by simp [place]
  have hapart (slots : List Slot) : slots.Pairwise Slot.Apart ↔ (slots.map place).Pairwise
      fun p q ↦ p.2.1 + p.2.2 ≤ q.2.1 ∨ q.2.1 + q.2.2 ≤ p.2.1 := by
    rw [List.pairwise_map]
    rfl
  constructor
  · rw [hpos, h, ← hpos]
    exact hplaced.pos
  · rw [hapart, h, ← hapart]
    exact hplaced.apart

variable [NumberReader]

/-- The slot knows the memories of the rows of every group, all of which were taken in. -/
def SlotTracks (slot : Slot) (groups : Std.TreeMap Bytes Buffer) (past : Bytes → List Row) : Prop :=
  ∃ memories, Knows slot groups memories ∧
    ∀ k ∈ groups, Memory.ofRows slot.aggregator.aggregate (past k) = .ok (memories k)

/-- All slots track the rows of all groups, and these are the codes with rows. -/
structure Tracks (g : Grouping) (slots : List Slot) (past : Bytes → List Row) : Prop where
  placed : Bundle.WellPlaced slots
  mem_iff : ∀ k, k ∈ g.groups ↔ past k ≠ []
  tracks : ∀ slot ∈ slots, SlotTracks slot g.groups past

/-! ### One slot -/

theorem SlotTracks.insert {m : Memory}
    (haggregate : slot'.aggregator.aggregate = slot.aggregator.aggregate)
    (hrows : ∀ k ∈ groups, Memory.ofRows slot.aggregator.aggregate (past k) = .ok (memories k))
    (hknows : Knows slot' (groups.insert k new) (Function.update memories k m))
    (hself : Memory.ofRows slot.aggregator.aggregate (past' k) = .ok m)
    (hother : ∀ k', k' ≠ k → past' k' = past k') :
    SlotTracks slot' (groups.insert k new) past' := by
  refine ⟨_, hknows, fun k' hk' ↦ ?_⟩
  rw [haggregate]
  by_cases heq : k' = k
  · subst heq
    rw [hself, Function.update_self]
  · rw [hother k' heq, Function.update_of_ne heq]
    exact hrows k' ((mem_insert_iff.1 hk').resolve_left (Ne.symm heq))

/-- A slot that begins a group with its first row goes on tracking. -/
theorem SlotTracks.insert_of_begins (h : SlotTracks slot groups past)
    (hself : past' k = [row]) (hother : ∀ k', k' ≠ k → past' k' = past k')
    (hshared : Bundle.Shared (Bundle.Begins row (.ok ())) old new slot slot') :
    SlotTracks slot' (groups.insert k new) past' := by
  obtain ⟨memories, hknows, hrows⟩ := h
  obtain ⟨m, hm, hknows'⟩ := hknows.insert_of_begins hshared
  refine .insert (Bundle.aggregate_of_begins hshared) hrows hknows' ?_ hother
  rw [hself, Memory.ofRows_singleton]
  exact hm

/-- A slot that takes in a further row of a group goes on tracking. -/
theorem SlotTracks.insert_of_continues (h : SlotTracks slot groups past)
    (hk : groups[k]? = some old) (hself : past' k = past k ++ [row])
    (hother : ∀ k', k' ≠ k → past' k' = past k')
    (hshared : Bundle.Shared (Bundle.Continues row (.ok ())) old new slot slot') :
    SlotTracks slot' (groups.insert k new) past' := by
  obtain ⟨memories, hknows, hrows⟩ := h
  have hm := hrows k (mem_of_some hk)
  obtain ⟨houtcome, hknows'⟩ := hknows.insert_of_continues hk hshared
  refine .insert (Bundle.eq_of_continues absorb_aggregate hshared) hrows hknows' ?_ hother
  rw [hself]
  exact Memory.ofRows_snoc_of_done (Memory.ne_nil_of_ofRows hm) hm
    (Step.eq_done_of_ok houtcome.symm)

/-! ### All slots -/

theorem place_of_begins (h : Bundle.Shared (Bundle.Begins row outcome) old new slot slot') :
    place slot' = place slot := by
  rw [place, place, Bundle.aggregate_of_begins h, h.offset_eq, h.size_eq]

theorem place_of_continues (h : Bundle.Shared (Bundle.Continues row outcome) old new slot slot') :
    place slot' = place slot := by
  rw [place, place, Bundle.eq_of_continues absorb_aggregate h, h.offset_eq, h.size_eq]

/-- If every slot goes on tracking after its share, all do, at the same places. -/
theorem tracks_of_shared
    {r : Slot → Slot → Except Error Accumulator → Except Error Accumulator → Prop}
    {slots slots' : List Slot} (hshared : List.Forall₂ (Bundle.Shared r old new) slots slots')
    (hstep : ∀ slot ∈ slots, ∀ slot', Bundle.Shared r old new slot slot' →
      place slot' = place slot ∧ SlotTracks slot' groups past) :
    slots'.map place = slots.map place ∧ ∀ slot' ∈ slots', SlotTracks slot' groups past := by
  induction hshared with
  | nil => exact ⟨rfl, fun _ h ↦ by cases h⟩
  | @cons slot slot' rest rest' hslot _ ih =>
    obtain ⟨hplace, htracks⟩ := hstep slot List.mem_cons_self slot' hslot
    obtain ⟨hplaces, hall⟩ := ih fun t ht ↦ hstep t (List.mem_cons_of_mem _ ht)
    exact ⟨by rw [List.map_cons, List.map_cons, hplace, hplaces],
      List.forall_mem_cons.2 ⟨htracks, hall⟩⟩

/-! ### A row -/

theorem push_of_keyOf_error {g : Grouping} {row : Row} {e : Error}
    (h : keyOf g.keys row = .error e) (bundle : Bundle) :
    g.push bundle row = .failed (g, bundle) e := by
  rw [push, h]

/-- The row goes through the slots of the bundle, on the buffer of the group with its code.
If there is no such group, there is one afterwards if no slot has refused. -/
theorem push_goes {g : Grouping} {bundle : Bundle} {row : Row} {k : Bytes}
    (hplaced : Bundle.WellPlaced bundle.slots) (hkey : keyOf g.keys row = .ok k) :
    ∃ new slots',
      (∃ old, g.groups[k]? = some old ∧ new.capacity = old.capacity ∧
        Bundle.Goes Bundle.absorbSlot row (Bundle.Continues row) old new (g.push bundle row).outcome
          bundle.slots slots' ∧
        (g.push bundle row).state =
          ({ g with groups := g.groups.insert k new }, { bundle with slots := slots' })) ∨
      g.groups[k]? = none ∧ new.capacity = bundle.capacity ∧
        Bundle.Goes Bundle.startSlot row (Bundle.Begins row) (.blank bundle.capacity) new
          (g.push bundle row).outcome bundle.slots slots' ∧
        ((g.push bundle row).outcome = .ok () ∧ (g.push bundle row).state =
            ({ g with groups := g.groups.insert k new }, { bundle with slots := slots' }) ∨
          (∃ e, (g.push bundle row).outcome = .error e) ∧
            (g.push bundle row).state = (g, { bundle with slots := slots' })) := by
  cases hbuffer : g.groups[k]? with
  | some old =>
    have hpush : g.push bundle row = (bundle.absorb row old).map fun p ↦
        ({ g with groups := g.groups.insert k p.2 }, p.1) := by
      simp only [push, hkey, hbuffer]
    obtain ⟨hgoes, -, hcapacity⟩ := Bundle.through_goes (Bundle.works_absorbSlot row)
      (Bundle.local_absorbSlot row) hplaced old
    rw [hpush]
    exact ⟨_, _, .inl ⟨old, rfl, hcapacity, hgoes, rfl⟩⟩
  | none =>
    obtain ⟨hgoes, -, hcapacity⟩ := Bundle.through_goes (Bundle.works_startSlot row)
      (Bundle.local_startSlot row) hplaced (.blank bundle.capacity)
    refine ⟨(bundle.start row).state.2, (bundle.start row).state.1.slots,
      .inr ⟨rfl, hcapacity, ?_⟩⟩
    cases hstart : (bundle.start row).outcome with
    | error e =>
      have hpush : g.push bundle row = .failed (g, (bundle.start row).state.1) e := by
        simp only [push, hkey, hbuffer, hstart]
      have hrefused : (Bundle.through Bundle.startSlot row bundle.slots
        (.blank bundle.capacity)).outcome = .error e := hstart
      rw [hrefused] at hgoes
      rw [hpush]
      exact ⟨hgoes, .inr ⟨⟨e, rfl⟩, rfl⟩⟩
    | ok u =>
      have hpush : g.push bundle row = .done
          ({ g with groups := g.groups.insert k (bundle.start row).state.2 },
            (bundle.start row).state.1) := by
        simp only [push, hkey, hbuffer, hstart]
      have hdone : (Bundle.through Bundle.startSlot row bundle.slots
        (.blank bundle.capacity)).outcome = .ok () := hstart
      rw [hdone] at hgoes
      rw [hpush]
      exact ⟨hgoes, .inl ⟨rfl, rfl⟩⟩

/-- A row that is taken in continues the group with its code, or begins it. -/
theorem push_cases {g : Grouping} {bundle : Bundle} {row : Row}
    (hplaced : Bundle.WellPlaced bundle.slots) (hok : (g.push bundle row).outcome = .ok ()) :
    ∃ k new slots', keyOf g.keys row = .ok k ∧
      (g.push bundle row).state =
        ({ g with groups := g.groups.insert k new }, { bundle with slots := slots' }) ∧
      ((∃ old, g.groups[k]? = some old ∧
          List.Forall₂ (Bundle.Shared (Bundle.Continues row (.ok ())) old new) bundle.slots
            slots') ∨
        (g.groups[k]? = none ∧
          List.Forall₂ (Bundle.Shared (Bundle.Begins row (.ok ())) (.blank bundle.capacity) new)
            bundle.slots slots')) := by
  cases hkey : keyOf g.keys row with
  | error e =>
    rw [push_of_keyOf_error hkey] at hok
    cases hok
  | ok k =>
    obtain ⟨new, slots', ⟨old, hold, -, hgoes, hstate⟩ | ⟨hnone, -, hgoes, hstate⟩⟩ :=
      push_goes hplaced hkey
    · rw [hok] at hgoes
      exact ⟨k, new, slots', rfl, hstate, .inl ⟨old, hold, hgoes.of_ok⟩⟩
    · rw [hok] at hgoes hstate
      obtain ⟨-, hstate⟩ | ⟨⟨e, he⟩, -⟩ := hstate
      · exact ⟨k, new, slots', rfl, hstate, .inr ⟨hnone, hgoes.of_ok⟩⟩
      · cases he

/-- A row that is taken in is one more of its group. -/
theorem push_tracks {g : Grouping} {bundle : Bundle} {row : Row} {past past' : Bytes → List Row}
    (h : Tracks g bundle.slots past) (hok : (g.push bundle row).outcome = .ok ())
    (hgrown : ∀ k, keyOf g.keys row = .ok k → Grown past past' k row) :
    (g.push bundle row).state.1.keys = g.keys ∧
      (g.push bundle row).state.2.slots.map place = bundle.slots.map place ∧
      (∃ k, keyOf g.keys row = .ok k) ∧
      Tracks (g.push bundle row).state.1 (g.push bundle row).state.2.slots past' := by
  obtain ⟨k, new, slots', hkey, hstate, hcase⟩ := push_cases h.placed hok
  obtain ⟨hself, hothers⟩ := hgrown k hkey
  have hslots : slots'.map place = bundle.slots.map place ∧
      ∀ slot' ∈ slots', SlotTracks slot' (g.groups.insert k new) past' := by
    rcases hcase with ⟨old, hbuffer, hshared⟩ | ⟨hbuffer, hshared⟩
    · exact tracks_of_shared hshared fun slot hslot slot' hdid ↦ ⟨place_of_continues hdid,
        (h.tracks slot hslot).insert_of_continues hbuffer hself hothers hdid⟩
    · have hfirst : past' k = [row] := by
        rw [hself, eq_nil_of_none h.mem_iff hbuffer, List.nil_append]
      exact tracks_of_shared hshared fun slot hslot slot' hdid ↦ ⟨place_of_begins hdid,
        (h.tracks slot hslot).insert_of_begins hfirst hothers hdid⟩
  rw [hstate]
  exact ⟨rfl, hslots.1, ⟨k, hkey⟩, wellPlaced_congr hslots.1 h.placed,
    Grown.ne_nil_iff ⟨hself, hothers⟩ h.mem_iff new, hslots.2⟩

end Grouping

end Rollup
