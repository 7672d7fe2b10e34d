import Mathlib.Data.List.Forall2
import Rollup.Proofs.Table.Aggregator
import Rollup.Table.Bundle

/-!
# Aggregators that share a buffer

The slots of a well-placed bundle have no byte in common, so that writing one
leaves what the others hold (`Buffer.read_write_apart`).  When a bundle takes a
row into a group, then, every aggregator has worked on its own slot as if it
were the only one, up to and with the one that has refused the row
(`Bundle.through_goes`).

What slots do is told by the relation `Bundle.Goes`, and a fact about one slot
becomes one about all of them by `Goes.forall₂`.
-/

namespace Rollup

open Outcome

namespace Buffer

theorem write_eq_ok {b b' : Buffer} {offset size : Nat} {need : SlotSize} {s : Accumulator}
    (h : b.write offset size need s = .ok b') :
    b' = { b with cells := ⟨offset, size, s⟩ :: b.cells.filter fun c ↦ c.isApart offset size } := by
  unfold write at h
  split at h
  · exact (Except.ok.inj h).symm
  · cases h

theorem verdict_write {b b' : Buffer} (h : b.capacity = b'.capacity) (offset size : Nat)
    (need : SlotSize) (s s' : Accumulator) :
    verdict (b.write offset size need s) = verdict (b'.write offset size need s') := by
  rw [Buffer.write, Buffer.write, h]
  split <;> rfl

theorem read_write_self {b b' : Buffer} {offset size : Nat} {need : SlotSize} {s : Accumulator}
    (h : b.write offset size need s = .ok b') : b'.read offset size = .ok s := by
  rw [write_eq_ok h]
  simp [read]

/-- What is written in one place leaves what is held in a place apart from it. -/
theorem read_write_apart {b b' : Buffer} {offset size other count : Nat} {need : SlotSize}
    {s : Accumulator} (h : b.write offset size need s = .ok b')
    (hapart : other + count ≤ offset ∨ offset + size ≤ other) (hpos : 0 < count) :
    b'.read other count = b.read other count := by
  have hkeep : (fun c : Cell ↦ decide (c.isApart offset size = true ∧
      (c.offset = other && c.size = count) = true)) =
        fun c ↦ decide (c.offset = other) && decide (c.size = count) := by
    funext c
    by_cases hc : c.offset = other ∧ c.size = count
    · obtain ⟨rfl, rfl⟩ := hc
      simpa [Cell.isApart] using hapart
    · have hother : (decide (c.offset = other) && decide (c.size = count)) = false := by
        simpa using hc
      rw [hother]
      simp
  have hnew : ¬ (offset = other ∧ size = count) := by omega
  rw [write_eq_ok h, read, read, List.find?_cons_of_neg (by simpa using hnew), List.find?_filter,
    hkeep]

theorem read_replace {b : Buffer} {offset size other count : Nat} {s : Accumulator} :
    (b.replace offset size s).read other count =
      if other = offset ∧ count = size then (b.read other count).map fun _ ↦ s
      else b.read other count := by
  have hfind : ((b.replace offset size s).cells.find? fun c ↦ c.offset = other && c.size = count) =
      (b.cells.find? fun c ↦ c.offset = other && c.size = count).map fun c ↦
        if c.offset = offset ∧ c.size = size then { c with state := s } else c := by
    rw [replace, List.find?_map]
    congr 2
    funext c
    dsimp only [Function.comp_apply]
    split <;> rfl
  rw [read, read, hfind]
  cases hc : b.cells.find? fun c ↦ c.offset = other && c.size = count with
  | none => exact (ite_self _).symm
  | some c =>
    obtain ⟨rfl, rfl⟩ : c.offset = other ∧ c.size = count := by simpa using List.find?_some hc
    by_cases hplace : c.offset = offset ∧ c.size = size
    · rw [if_pos hplace, Option.map_some, if_pos hplace]
      rfl
    · rw [if_neg hplace, Option.map_some, if_neg hplace]

theorem read_replace_self {b : Buffer} {offset size : Nat} {s t : Accumulator}
    (h : b.read offset size = .ok t) : (b.replace offset size s).read offset size = .ok s := by
  rw [read_replace, if_pos ⟨rfl, rfl⟩, h]
  rfl

/-- What is replaced in one place leaves what is held in a place apart from it. -/
theorem read_replace_apart {b : Buffer} {offset size other count : Nat} {s : Accumulator}
    (hapart : other + count ≤ offset ∨ offset + size ≤ other) (hpos : 0 < count) :
    (b.replace offset size s).read other count = b.read other count := by
  rw [read_replace, if_neg (by omega)]

end Buffer

/-- The slots have no byte in common. -/
def Slot.Apart (s t : Slot) : Prop := s.offset + s.size ≤ t.offset ∨ t.offset + t.size ≤ s.offset

/-- The accumulator in a slot of a buffer. -/
def Slot.held (slot : Slot) (buffer : Buffer) : Except Error Accumulator :=
  buffer.read slot.offset slot.size

theorem Slot.Apart.symm {s t : Slot} (h : s.Apart t) : t.Apart s := Or.symm h

namespace Bundle

/-- Every slot has some bytes of its own. -/
structure WellPlaced (slots : List Slot) : Prop where
  pos : ∀ slot ∈ slots, 0 < slot.size
  apart : slots.Pairwise Slot.Apart

theorem WellPlaced.tail {slot : Slot} {rest : List Slot} (h : WellPlaced (slot :: rest)) :
    WellPlaced rest :=
  ⟨fun t ht ↦ h.pos t (List.mem_cons_of_mem _ ht), (List.pairwise_cons.1 h.apart).2⟩

/-! ## One slot

What a slot does with a row, and how that ends, is a relation between the slot before and
after, and what its place in the buffer holds before and after. -/

/-- The slot begins a group with its first row, or refuses it. -/
def Begins [NumberReader] (row : Row) (outcome : Except Error Unit) (slot slot' : Slot)
    (_ after : Except Error Accumulator) : Prop :=
  slot'.aggregator = (slot.aggregator.start row).1 ∧
    (outcome = .ok () → ∃ s, (slot.aggregator.start row).2 = .ok s ∧ after = .ok s)

/-- The slot does with a further row of a group what its aggregator does with the
accumulator, also if it refuses the row. -/
def Continues [NumberReader] (row : Row) (outcome : Except Error Unit) (slot slot' : Slot) :
    Except Error Accumulator → Except Error Accumulator → Prop
  | .ok s, after => outcome = (slot.aggregator.absorb row s).outcome ∧
      slot'.aggregator = (slot.aggregator.absorb row s).state.1 ∧
      after = .ok (slot.aggregator.absorb row s).state.2
  | .error e, after => outcome = .error e ∧ slot'.aggregator = slot.aggregator ∧ after = .error e

/-- A slot has done its share between two buffers, and stayed where it was. -/
structure Shared (r : Slot → Slot → Except Error Accumulator → Except Error Accumulator → Prop)
    (old new : Buffer) (slot slot' : Slot) : Prop where
  offset_eq : slot'.offset = slot.offset
  size_eq : slot'.size = slot.size
  did : r slot slot' (slot.held old) (slot.held new)

theorem Shared.held_eq
    {r : Slot → Slot → Except Error Accumulator → Except Error Accumulator → Prop}
    {old new : Buffer} {slot slot' : Slot} (h : Shared r old new slot slot') (buffer : Buffer) :
    slot'.held buffer = slot.held buffer := by
  rw [Slot.held, Slot.held, h.offset_eq, h.size_eq]

theorem aggregate_of_begins [NumberReader] {row : Row} {outcome : Except Error Unit}
    {old new : Buffer} {slot slot' : Slot} (h : Shared (Begins row outcome) old new slot slot') :
    slot'.aggregator.aggregate = slot.aggregator.aggregate := by
  rw [h.did.1, Aggregator.start_aggregate]

/-- What no further row changes in an aggregator, a slot keeps. -/
theorem eq_of_continues [NumberReader] {α : Type} {f : Aggregator → α}
    (hf : ∀ (a : Aggregator) row s, f (a.absorb row s).state.1 = f a) {row : Row}
    {outcome : Except Error Unit} {old new : Buffer} {slot slot' : Slot}
    (h : Shared (Continues row outcome) old new slot slot') :
    f slot'.aggregator = f slot.aggregator := by
  have hdid := h.did
  cases hheld : slot.held old with
  | error e =>
    rw [hheld] at hdid
    rw [hdid.2.1]
  | ok s =>
    rw [hheld] at hdid
    rw [hdid.2.1, hf]

/-- What is in a place apart from all slots is not touched. -/
def Untouched (slots : List Slot) (old new : Buffer) : Prop :=
  ∀ slot : Slot, 0 < slot.size → (∀ t ∈ slots, slot.Apart t) → slot.held new = slot.held old

variable {share : Slot → Row → Buffer → Step Error (Slot × Buffer)} {row : Row}
  {does : Except Error Unit → Slot → Slot → Except Error Accumulator → Except Error Accumulator →
    Prop}

/-- What a single slot does is its share, and it touches its own place only. -/
structure Works (share : Slot → Row → Buffer → Step Error (Slot × Buffer)) (row : Row)
    (does : Except Error Unit → Slot → Slot → Except Error Accumulator →
      Except Error Accumulator → Prop) : Prop where
  shared : ∀ slot buffer, Shared (does (share slot row buffer).outcome) buffer
    (share slot row buffer).state.2 slot (share slot row buffer).state.1
  untouched : ∀ slot buffer, Untouched [slot] buffer (share slot row buffer).state.2
  capacity_eq : ∀ slot buffer, (share slot row buffer).state.2.capacity = buffer.capacity

section

variable [NumberReader]

theorem startSlot_of_error {slot : Slot} {e : Error} (h : (slot.aggregator.start row).2 = .error e)
    (buffer : Buffer) : startSlot slot row buffer =
      .failed ({ slot with aggregator := (slot.aggregator.start row).1 }, buffer) e := by
  rw [startSlot, h]
  rfl

theorem startSlot_of_ok {slot : Slot} {s : Accumulator}
    (h : (slot.aggregator.start row).2 = .ok s) (buffer : Buffer) : startSlot slot row buffer =
      .ofExcept ({ slot with aggregator := (slot.aggregator.start row).1 }, buffer)
        ((buffer.write slot.offset slot.size
          (slot.aggregator.start row).1.aggregate.slotSize s).map
            (({ slot with aggregator := (slot.aggregator.start row).1 }, ·))) := by
  rw [startSlot, h]
  rfl

theorem works_startSlot (row : Row) : Works startSlot row (Begins row) := by
  have hworks (slot : Slot) (buffer : Buffer) :
      Shared (Begins row (startSlot slot row buffer).outcome) buffer
          (startSlot slot row buffer).state.2 slot (startSlot slot row buffer).state.1 ∧
        Untouched [slot] buffer (startSlot slot row buffer).state.2 ∧
        (startSlot slot row buffer).state.2.capacity = buffer.capacity := by
    cases hstart : (slot.aggregator.start row).2 with
    | error e =>
      rw [startSlot_of_error hstart]
      exact ⟨⟨rfl, rfl, rfl, fun h ↦ by cases h⟩, fun _ _ _ ↦ rfl, rfl⟩
    | ok s =>
      rw [startSlot_of_ok hstart]
      cases hwrite : buffer.write slot.offset slot.size
          (slot.aggregator.start row).1.aggregate.slotSize s with
      | error e => exact ⟨⟨rfl, rfl, rfl, fun h ↦ by cases h⟩, fun _ _ _ ↦ rfl, rfl⟩
      | ok new =>
        refine ⟨⟨rfl, rfl, rfl, fun _ ↦ ⟨s, hstart, Buffer.read_write_self hwrite⟩⟩,
          fun t hpos hapart ↦ ?_, by rw [Buffer.write_eq_ok hwrite]; rfl⟩
        exact Buffer.read_write_apart hwrite (hapart slot (List.mem_singleton_self slot)) hpos
  exact ⟨fun slot buffer ↦ (hworks slot buffer).1, fun slot buffer ↦ (hworks slot buffer).2.1,
    fun slot buffer ↦ (hworks slot buffer).2.2⟩

theorem works_absorbSlot (row : Row) : Works absorbSlot row (Continues row) := by
  have hworks (slot : Slot) (buffer : Buffer) :
      Shared (Continues row (absorbSlot slot row buffer).outcome) buffer
          (absorbSlot slot row buffer).state.2 slot (absorbSlot slot row buffer).state.1 ∧
        Untouched [slot] buffer (absorbSlot slot row buffer).state.2 ∧
        (absorbSlot slot row buffer).state.2.capacity = buffer.capacity := by
    rw [absorbSlot]
    cases hread : buffer.read slot.offset slot.size with
    | error e =>
      refine ⟨⟨rfl, rfl, ?_⟩, fun _ _ _ ↦ rfl, rfl⟩
      dsimp only [Step.failed_outcome, Step.failed_state]
      rw [Slot.held, hread]
      exact ⟨rfl, rfl, rfl⟩
    | ok s =>
      refine ⟨⟨rfl, rfl, ?_⟩, fun t hpos hapart ↦ ?_, rfl⟩
      · rw [Slot.held, hread]
        exact ⟨rfl, rfl, Buffer.read_replace_self hread⟩
      · exact Buffer.read_replace_apart (hapart slot (List.mem_singleton_self slot)) hpos
  exact ⟨fun slot buffer ↦ (hworks slot buffer).1, fun slot buffer ↦ (hworks slot buffer).2.1,
    fun slot buffer ↦ (hworks slot buffer).2.2⟩

/-! ### Outcomes -/

/-- Whether a slot does its share, and why not, depends on what is in its place and on the
size of the buffer. -/
def Local (share : Slot → Row → Buffer → Step Error (Slot × Buffer)) (row : Row) : Prop :=
  ∀ (slot : Slot) (b b' : Buffer), b.capacity = b'.capacity → slot.held b = slot.held b' →
    (share slot row b).outcome = (share slot row b').outcome

theorem local_startSlot (row : Row) : Local startSlot row := by
  intro slot b b' hcapacity _
  cases hstart : (slot.aggregator.start row).2 with
  | error e => rw [startSlot_of_error hstart, startSlot_of_error hstart]; rfl
  | ok s =>
    rw [startSlot_of_ok hstart, startSlot_of_ok hstart, Step.ofExcept_outcome,
      Step.ofExcept_outcome, verdict_map, verdict_map]
    exact Buffer.verdict_write hcapacity ..

theorem local_absorbSlot (row : Row) : Local absorbSlot row := by
  intro slot b b' _ hheld
  rw [Slot.held, Slot.held] at hheld
  rw [absorbSlot, absorbSlot, hheld]
  cases b'.read slot.offset slot.size <;> rfl

end

/-! ## All slots

The induction is on the slots.  The first slot works on the buffer as it is;
the rest work on what it leaves, which is the same in all their places. -/

/-- What slots have done between two buffers, as if each were the only one: if one of
them refused, those in front of it have done their share, and those behind it are as they
were. -/
inductive Goes (share : Slot → Row → Buffer → Step Error (Slot × Buffer)) (row : Row)
    (does : Except Error Unit → Slot → Slot → Except Error Accumulator →
      Except Error Accumulator → Prop)
    (old new : Buffer) : Except Error Unit → List Slot → List Slot → Prop
  | nil : Goes share row does old new (.ok ()) [] []
  | cons {outcome : Except Error Unit} {slot slot' : Slot} {rest rest' : List Slot}
    (outcome_eq : (share slot row old).outcome = .ok ())
    (shared : Shared (does (.ok ())) old new slot slot')
    (goes : Goes share row does old new outcome rest rest') :
    Goes share row does old new outcome (slot :: rest) (slot' :: rest')
  | refused {e : Error} {slot slot' : Slot} {rest : List Slot}
    (outcome_eq : (share slot row old).outcome = .error e)
    (shared : Shared (does (.error e)) old new slot slot')
    (kept : ∀ t ∈ rest, t.held new = t.held old) :
    Goes share row does old new (.error e) (slot :: rest) (slot' :: rest)

namespace Goes

variable {outcome : Except Error Unit} {old mid new : Buffer} {slots slots' : List Slot}

/-- A buffer with the same in all places is as good. -/
theorem congr_old (hlocal : Local share row) (hcapacity : mid.capacity = old.capacity)
    (hsame : ∀ slot ∈ slots, slot.held mid = slot.held old)
    (h : Goes share row does mid new outcome slots slots') :
    Goes share row does old new outcome slots slots' := by
  induction h with
  | nil => exact .nil
  | @cons _ slot _ _ _ houtcome hshared _ ih =>
    rw [List.forall_mem_cons] at hsame
    obtain ⟨hoffset, hsize, hdid⟩ := hshared
    rw [hlocal slot mid old hcapacity hsame.1] at houtcome
    rw [hsame.1] at hdid
    exact .cons houtcome ⟨hoffset, hsize, hdid⟩ (ih hsame.2)
  | @refused _ slot _ _ houtcome hshared hkept =>
    rw [List.forall_mem_cons] at hsame
    obtain ⟨hoffset, hsize, hdid⟩ := hshared
    rw [hlocal slot mid old hcapacity hsame.1] at houtcome
    rw [hsame.1] at hdid
    exact .refused houtcome ⟨hoffset, hsize, hdid⟩ fun t ht ↦ (hkept t ht).trans (hsame.2 t ht)

/-- What follows for a slot if it has done its share, and if it is as it was because a slot
has refused, is so for all slots. -/
theorem forall₂ {p : Slot → Prop} {r : Slot → Slot → Prop}
    (h : Goes share row does old new outcome slots slots') (hslots : ∀ slot ∈ slots, p slot)
    (hdid : ∀ o slot slot', (outcome = .ok () → o = .ok ()) → p slot →
      Shared (does o) old new slot slot' → r slot slot')
    (hkeep : outcome ≠ .ok () → ∀ slot, p slot → slot.held new = slot.held old → r slot slot) :
    List.Forall₂ r slots slots' := by
  induction h with
  | nil => exact .nil
  | cons _ hshared _ ih =>
    rw [List.forall_mem_cons] at hslots
    exact .cons (hdid _ _ _ (fun _ ↦ rfl) hslots.1 hshared) (ih hslots.2 hdid hkeep)
  | refused _ hshared hkept =>
    rw [List.forall_mem_cons] at hslots
    refine .cons (hdid _ _ _ id hslots.1 hshared) (List.forall₂_same.2 fun t ht ↦ ?_)
    exact hkeep (fun h ↦ by cases h) t (hslots.2 t ht) (hkept t ht)

theorem of_ok (h : Goes share row does old new (.ok ()) slots slots') :
    List.Forall₂ (Shared (does (.ok ())) old new) slots slots' :=
  h.forall₂ (p := fun _ ↦ True) (fun _ _ ↦ trivial)
    (fun _ _ _ ho _ hshared ↦ ho rfl ▸ hshared) fun hrefused ↦ absurd rfl hrefused

/-- The slot that refused, and those in front of it and behind it. -/
theorem of_error {e : Error} (h : Goes share row does old new (.error e) slots slots') :
    ∃ front front' refusing refusing' behind, slots = front ++ refusing :: behind ∧
      slots' = front' ++ refusing' :: behind ∧
      List.Forall₂ (Shared (does (.ok ())) old new) front front' ∧
      (share refusing row old).outcome = .error e ∧
      Shared (does (.error e)) old new refusing refusing' ∧
      ∀ t ∈ behind, t.held new = t.held old := by
  generalize ho : Except.error e = o at h
  induction h with
  | nil => cases ho
  | @cons _ slot slot' _ _ _ hshared _ ih =>
    obtain ⟨front, front', refusing, refusing', behind, rfl, rfl, hfront, hrefusing⟩ := ih ho
    exact ⟨slot :: front, slot' :: front', refusing, refusing', behind, rfl, rfl,
      .cons hshared hfront, hrefusing⟩
  | @refused _ slot slot' rest houtcome hshared hkept =>
    cases ho
    exact ⟨[], [], slot, slot', rest, rfl, rfl, .nil, houtcome, hshared, hkept⟩

/-- What a slot keeps when it does its share, all slots keep. -/
theorem map_eq {α : Type} {f : Slot → α} (h : Goes share row does old new outcome slots slots')
    (hdid : ∀ o slot slot', Shared (does o) old new slot slot' → f slot' = f slot) :
    slots'.map f = slots.map f := by
  have hall : List.Forall₂ (fun slot slot' ↦ f slot = f slot') slots slots' :=
    h.forall₂ (p := fun _ ↦ True) (fun _ _ ↦ trivial)
      (fun o slot slot' _ _ hshared ↦ (hdid o slot slot' hshared).symm) fun _ _ _ _ ↦ rfl
  have heq : List.Forall₂ Eq (slots.map f) (slots'.map f) :=
    List.forall₂_map_left_iff.2 (List.forall₂_map_right_iff.2 hall)
  rw [List.forall₂_eq_eq_eq] at heq
  exact heq.symm

theorem forall_mem {p q : Slot → Prop} (h : Goes share row does old new outcome slots slots')
    (hslots : ∀ slot ∈ slots, p slot)
    (hdid : ∀ o slot slot', (outcome = .ok () → o = .ok ()) → p slot →
      Shared (does o) old new slot slot' → q slot')
    (hkeep : outcome ≠ .ok () → ∀ slot, p slot → slot.held new = slot.held old → q slot) :
    ∀ slot ∈ slots', q slot := by
  have hall : List.Forall₂ (fun slot' _ ↦ q slot' ∧ True) slots' slots :=
    ((h.forall₂ hslots hdid hkeep).imp fun _ _ hq ↦ ⟨hq, trivial⟩).flip
  exact ((List.forall₂_and_left ..).1 hall).1

/-- Two runs of slots that agree in how each slot ends go the same way, unless the first of
them is refused for a reason that is excused. -/
theorem meet {p : Error → Prop} {r q : Slot → Slot → Prop} {outcome' : Except Error Unit}
    {old' new' : Buffer} {twins twins' : List Slot}
    (h : Goes share row does old new outcome slots slots')
    (h' : Goes share row does old' new' outcome' twins twins') (hall : List.Forall₂ r slots twins)
    (hends : ∀ slot twin, r slot twin → (∃ e, (share slot row old).outcome = .error e ∧ p e) ∨
      (share slot row old).outcome = (share twin row old').outcome)
    (hdid : ∀ o slot twin slot' twin', (outcome = .ok () → o = .ok ()) → r slot twin →
      Shared (does o) old new slot slot' → Shared (does o) old' new' twin twin' → q slot' twin')
    (hkeep : outcome ≠ .ok () → ∀ slot twin, r slot twin → slot.held new = slot.held old →
      twin.held new' = twin.held old' → q slot twin) :
    (∃ e, outcome = .error e ∧ p e) ∨ outcome = outcome' ∧ List.Forall₂ q slots' twins' := by
  induction h generalizing twins twins' with
  | nil =>
    cases hall
    cases h'
    exact .inr ⟨rfl, .nil⟩
  | @cons _ slot _ rest _ hslot hshared _ ih =>
    cases hall with
    | @cons _ twin _ others hr hrest =>
      have hagree : (share twin row old').outcome = .ok () := by
        rcases hends slot twin hr with ⟨e, herror, -⟩ | hsame
        · cases herror.symm.trans hslot
        · exact hsame.symm.trans hslot
      cases h' with
      | cons _ hshared' hgoes' =>
        refine (ih hgoes' hrest hdid hkeep).imp_right fun ⟨houtcome, hrest'⟩ ↦ ⟨houtcome, ?_⟩
        exact .cons (hdid _ _ _ _ _ (fun _ ↦ rfl) hr hshared hshared') hrest'
      | refused hrefused => cases hrefused.symm.trans hagree
  | @refused e slot _ rest hslot hshared hkept =>
    cases hall with
    | @cons _ twin _ others hr hrest =>
      rcases hends slot twin hr with ⟨e', herror, hp⟩ | hsame
      · cases hslot.symm.trans herror
        exact .inl ⟨e, rfl, hp⟩
      · right
        cases h' with
        | cons htwin => cases (hslot.symm.trans hsame).trans htwin
        | refused htwin hshared' hkept' =>
          cases (hslot.symm.trans hsame).trans htwin
          refine ⟨rfl, .cons (hdid _ _ _ _ _ id hr hshared hshared')
            ((forall₂_of_mem hrest hkept hkept').imp fun t t' ht ↦ ?_)⟩
          exact hkeep (fun h ↦ by cases h) t t' ht.1 ht.2.1 ht.2.2

end Goes

theorem through_goes (hworks : Works share row does) (hlocal : Local share row)
    {slots : List Slot} (hplaced : WellPlaced slots) (buffer : Buffer) :
    Goes share row does buffer (through share row slots buffer).state.2
        (through share row slots buffer).outcome slots (through share row slots buffer).state.1 ∧
      Untouched slots buffer (through share row slots buffer).state.2 ∧
      (through share row slots buffer).state.2.capacity = buffer.capacity := by
  induction slots generalizing buffer with
  | nil => exact ⟨.nil, fun _ _ _ ↦ rfl, rfl⟩
  | cons slot rest ih =>
    have hshared := hworks.shared slot buffer
    have hfirst := hworks.untouched slot buffer
    have hcapacity := hworks.capacity_eq slot buffer
    have hslot := (List.pairwise_cons.1 hplaced.apart).1
    have hsame : ∀ t ∈ rest, t.held (share slot row buffer).state.2 = t.held buffer :=
      fun t ht ↦ hfirst t (hplaced.tail.pos t ht) fun u hu ↦
        (List.mem_singleton.1 hu) ▸ (hslot t ht).symm
    rw [through]
    cases hend : (share slot row buffer).outcome with
    | error e =>
      rw [hend] at hshared
      refine ⟨.refused hend hshared hsame, fun t hpos hapart ↦ ?_, hcapacity⟩
      exact hfirst t hpos fun u hu ↦ hapart u (List.mem_singleton.1 hu ▸ List.mem_cons_self)
    | ok u =>
      rw [hend] at hshared
      obtain ⟨hrest, hrestUntouched, hrestCapacity⟩ :=
        ih hplaced.tail (share slot row buffer).state.2
      refine ⟨.cons hend ⟨hshared.offset_eq, hshared.size_eq, ?_⟩
        (hrest.congr_old hlocal hcapacity hsame), fun t hpos hapart ↦ ?_,
        hrestCapacity.trans hcapacity⟩
      · dsimp only [Step.map_state]
        rw [hrestUntouched slot (hplaced.pos slot List.mem_cons_self) hslot]
        exact hshared.did
      · dsimp only [Step.map_state]
        rw [hrestUntouched t hpos fun u hu ↦ hapart u (List.mem_cons_of_mem _ hu)]
        exact hfirst t hpos fun u hu ↦ hapart u (List.mem_singleton.1 hu ▸ List.mem_cons_self)

end Bundle

end Rollup
