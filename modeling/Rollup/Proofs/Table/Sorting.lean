import Mathlib.Data.List.Basic
import Rollup.Table.Layout

/-!
# Where sorting by size puts a slot

Slots are laid out in the order of `Layout.bySize`, in which a slot comes before another if it is
larger, or of the same size and given before it (`Layout.pairwise_bySize`).  So the bytes in front
of a slot are those of all larger slots and of the equal ones that were given before it
(`Layout.totalSize_before`).  That is its offset, and a layout can be read without the order
(`Layout.of_eq`).
-/

namespace Rollup.Layout

variable {all front rest slots : List SlotSize} {slot : SlotSize} {size : Nat}

/-! ## Total sizes -/

/-- The bytes of all slots together. -/
def totalSize (slots : List SlotSize) : Nat := (slots.map SlotSize.size).foldr (· + ·) 0

/-- The bytes of the slots larger than `size`. -/
def sizeAbove (slots : List SlotSize) (size : Nat) : Nat :=
  totalSize (slots.filter fun s ↦ size < s.size)

/-- The bytes of the slots of exactly this size. -/
def sizeOf (slots : List SlotSize) (size : Nat) : Nat :=
  totalSize (slots.filter fun s ↦ s.size = size)

theorem totalSize_append (xs ys : List SlotSize) :
    totalSize (xs ++ ys) = totalSize xs + totalSize ys := by
  induction xs with
  | nil => simp [totalSize]
  | cons slot rest ih =>
    change slot.size + totalSize (rest ++ ys) = slot.size + totalSize rest + totalSize ys
    rw [ih, Nat.add_assoc]

theorem totalSize_perm {xs ys : List SlotSize} (h : xs.Perm ys) : totalSize xs = totalSize ys :=
  (h.map _).sum_nat

theorem sizeOf_append (xs ys : List SlotSize) (size : Nat) :
    sizeOf (xs ++ ys) size = sizeOf xs size + sizeOf ys size := by
  rw [sizeOf, List.filter_append, totalSize_append]
  rfl

theorem sizeOf_cons_self (slot : SlotSize) (rest : List SlotSize) :
    sizeOf (slot :: rest) slot.size = slot.size + sizeOf rest slot.size := by
  simp [sizeOf, totalSize]

theorem sizeAbove_append (xs ys : List SlotSize) (size : Nat) :
    sizeAbove (xs ++ ys) size = sizeAbove xs size + sizeAbove ys size := by
  rw [sizeAbove, List.filter_append, totalSize_append]
  rfl

theorem sizeAbove_cons (slot : SlotSize) (rest : List SlotSize) (size : Nat) :
    sizeAbove (slot :: rest) size =
      (if size < slot.size then slot.size else 0) + sizeAbove rest size := by
  by_cases h : size < slot.size <;> simp [sizeAbove, totalSize, h]

theorem sizeOf_cons (slot : SlotSize) (rest : List SlotSize) (size : Nat) :
    sizeOf (slot :: rest) size =
      (if slot.size = size then slot.size else 0) + sizeOf rest size := by
  by_cases h : slot.size = size <;> simp [sizeOf, totalSize, h]

/-! ## Sorting -/

/-- A slot comes before another: it is larger, or of the same size and has a smaller number. -/
def Before (p q : SlotSize × Nat) : Prop :=
  q.1.size < p.1.size ∨ q.1.size = p.1.size ∧ p.2 < q.2

instance : DecidableRel Before := fun _ _ ↦ inferInstanceAs (Decidable (_ ∨ _))

theorem Before.asymm {p q : SlotSize × Nat} (h : Before p q) : ¬Before q p := by
  rw [Before] at h ⊢
  omega

theorem insertBySize_perm (slot : SlotSize × Nat) (slots : List (SlotSize × Nat)) :
    (insertBySize slot slots).Perm (slot :: slots) := by
  induction slots with
  | nil => exact .refl _
  | cons other rest ih =>
    rw [insertBySize]
    split
    · exact (ih.cons other).trans (.swap slot other rest)
    · exact .refl _

theorem pairwise_insertBySize {slot : SlotSize × Nat} {slots : List (SlotSize × Nat)}
    (hfirst : ∀ other ∈ slots, slot.2 < other.2) (h : slots.Pairwise Before) :
    (insertBySize slot slots).Pairwise Before := by
  induction slots with
  | nil => exact List.pairwise_singleton _ _
  | cons other rest ih =>
    rw [List.forall_mem_cons] at hfirst
    obtain ⟨hother, hrest⟩ := List.pairwise_cons.1 h
    rw [insertBySize]
    split
    · rename_i hsmaller
      refine .cons (fun p hp ↦ ?_) (ih hfirst.2 hrest)
      rcases List.mem_cons.1 ((insertBySize_perm slot rest).mem_iff.1 hp) with rfl | hp
      · exact .inl hsmaller
      · exact hother p hp
    · rename_i hnotSmaller
      refine .cons (List.forall_mem_cons.2 ⟨?_, fun p hp ↦ ?_⟩) h
      · rcases Nat.lt_or_eq_of_le (Nat.le_of_not_lt hnotSmaller) with hlt | heq
        · exact .inl hlt
        · exact .inr ⟨heq, hfirst.1⟩
      · have hnumber := hfirst.2 p hp
        have hsize : p.1.size ≤ other.1.size := by
          rcases hother p hp with hlt | ⟨heq, -⟩ <;> omega
        rw [Before]
        omega

theorem foldr_insertBySize_perm (numbered : List (SlotSize × Nat)) :
    (numbered.foldr insertBySize []).Perm numbered := by
  induction numbered with
  | nil => exact .refl _
  | cons slot rest ih => exact (insertBySize_perm slot _).trans (ih.cons slot)

theorem pairwise_foldr_insertBySize {numbered : List (SlotSize × Nat)}
    (h : numbered.Pairwise fun p q ↦ p.2 < q.2) :
    (numbered.foldr insertBySize []).Pairwise Before := by
  induction numbered with
  | nil => exact .nil
  | cons slot rest ih =>
    obtain ⟨hfirst, hrest⟩ := List.pairwise_cons.1 h
    apply pairwise_insertBySize _ (ih hrest)
    exact fun other hother ↦ hfirst other ((foldr_insertBySize_perm rest).mem_iff.1 hother)

theorem bySize_perm (slots : List SlotSize) : (bySize slots).Perm slots.zipIdx :=
  foldr_insertBySize_perm _

theorem totalSize_bySize (slots : List SlotSize) :
    totalSize ((bySize slots).map Prod.fst) = totalSize slots := by
  rw [totalSize_perm ((bySize_perm slots).map Prod.fst), List.zipIdx_map_fst]

/-- A slot goes by the number of slots that were given before it. -/
theorem split_of_mem_bySize {number : Nat} (h : (slot, number) ∈ bySize slots) :
    ∃ front behind, slots = front ++ slot :: behind ∧ front.length = number := by
  rw [(bySize_perm slots).mem_iff, List.mem_zipIdx_iff_getElem?] at h
  obtain ⟨hnumber, hslot⟩ := List.getElem?_eq_some_iff.1 h
  refine ⟨slots.take number, slots.drop (number + 1), ?_, List.length_take_of_le ?_⟩
  · change slots[number] = slot at hslot
    rw [← hslot, List.getElem_cons_drop, List.take_append_drop]
  · exact Nat.le_of_lt hnumber

theorem pairwise_bySize (slots : List SlotSize) : (bySize slots).Pairwise Before := by
  apply pairwise_foldr_insertBySize
  have hnumbers : (slots.zipIdx.map Prod.snd).Pairwise (· < ·) := by
    rw [List.zipIdx_map_snd]
    exact List.pairwise_lt_range'
  exact List.pairwise_map.1 hnumbers

theorem nodup_numbers (slots : List SlotSize) : ((bySize slots).map Prod.snd).Nodup := by
  rw [((bySize_perm slots).map Prod.snd).nodup_iff, List.zipIdx_map_snd]
  exact List.nodup_range'

/-! ## Offsets -/

/-- Where a slot begins that has the slots `front` in front of it. -/
def offset (all front : List SlotSize) (slot : SlotSize) : Nat :=
  sizeAbove all slot.size + sizeOf front slot.size

/-- Offsets for the slots `rest`, in front of which the slots `front` were given:
behind all larger slots and the equal ones in front. -/
def offsetsFrom (all front : List SlotSize) : List SlotSize → List Nat
  | [] => []
  | slot :: rest => offset all front slot :: offsetsFrom all (front ++ [slot]) rest

/-- The bytes of the numbered slots that come before a slot. -/
def sizeBefore (slot : SlotSize × Nat) (numbered : List (SlotSize × Nat)) : Nat :=
  totalSize ((numbered.filter fun p ↦ Before p slot).map Prod.fst)

theorem sizeBefore_cons (slot other : SlotSize × Nat) (rest : List (SlotSize × Nat)) :
    sizeBefore slot (other :: rest) =
      (if Before other slot then other.1.size else 0) + sizeBefore slot rest := by
  by_cases h : Before other slot <;> simp [sizeBefore, totalSize, h]

theorem sizeBefore_append (slot : SlotSize × Nat) (xs ys : List (SlotSize × Nat)) :
    sizeBefore slot (xs ++ ys) = sizeBefore slot xs + sizeBefore slot ys := by
  rw [sizeBefore, List.filter_append, List.map_append, totalSize_append]
  rfl

/-- Of the slots with smaller numbers those come before a slot that are not smaller. -/
theorem sizeBefore_front (slot : SlotSize) {number k : Nat} (front : List SlotSize)
    (h : k + front.length ≤ number) :
    sizeBefore (slot, number) (front.zipIdx k) = offset front front slot := by
  induction front generalizing k with
  | nil => rfl
  | cons other rest ih =>
    rw [List.length_cons] at h
    have hbefore : Before (other, k) (slot, number) ↔ slot.size ≤ other.size := by
      dsimp only [Before]
      omega
    rw [List.zipIdx_cons, sizeBefore_cons, ih (by omega), if_congr hbefore rfl rfl, offset, offset,
      sizeAbove_cons, sizeOf_cons]
    dsimp only
    split_ifs <;> omega

/-- Of the slots with larger numbers those come before a slot that are larger. -/
theorem sizeBefore_behind (slot : SlotSize) {number k : Nat} (behind : List SlotSize)
    (h : number < k) :
    sizeBefore (slot, number) (behind.zipIdx k) = sizeAbove behind slot.size := by
  induction behind generalizing k with
  | nil => rfl
  | cons other rest ih =>
    have hbefore : Before (other, k) (slot, number) ↔ slot.size < other.size := by
      dsimp only [Before]
      omega
    rw [List.zipIdx_cons, sizeBefore_cons, ih (by omega), if_congr hbefore rfl rfl, sizeAbove_cons]

theorem sizeBefore_perm {xs ys : List (SlotSize × Nat)} (h : xs.Perm ys)
    (slot : SlotSize × Nat) : sizeBefore slot xs = sizeBefore slot ys :=
  totalSize_perm ((h.filter _).map _)

/-- In sorted slots those stand in front of a slot that come before it. -/
theorem sizeBefore_sorted {before after : List (SlotSize × Nat)} {slot : SlotSize × Nat}
    (h : (before ++ slot :: after).Pairwise Before) :
    sizeBefore slot (before ++ slot :: after) = totalSize (before.map Prod.fst) := by
  obtain ⟨-, hslot, hbefore⟩ := List.pairwise_append.1 h
  have hfront : (before.filter fun p ↦ Before p slot) = before :=
    List.filter_eq_self.2 fun p hp ↦ decide_eq_true (hbefore p hp slot List.mem_cons_self)
  have hbehind : ((slot :: after).filter fun p ↦ Before p slot) = [] := by
    refine List.filter_eq_nil_iff.2 (List.forall_mem_cons.2 ⟨?_, fun p hp ↦ ?_⟩) <;>
      rw [decide_eq_true_eq]
    · exact fun hself ↦ hself.asymm hself
    · exact ((List.pairwise_cons.1 hslot).1 p hp).asymm
  rw [sizeBefore, List.filter_append, hfront, hbehind, List.append_nil]

/-- The bytes in front of a slot once the slots are sorted. -/
theorem totalSize_before {behind : List SlotSize} {before after : List (SlotSize × Nat)}
    (hslots : slots = front ++ slot :: behind)
    (hsorted : bySize slots = before ++ (slot, front.length) :: after) :
    totalSize (before.map Prod.fst) = offset slots front slot := by
  have hpairwise := pairwise_bySize slots
  rw [hsorted] at hpairwise
  have hself : ¬Before (slot, front.length) (slot, front.length) := fun h ↦ h.asymm h
  rw [← sizeBefore_sorted hpairwise, ← hsorted, sizeBefore_perm (bySize_perm slots), hslots,
    List.zipIdx_append, List.zipIdx_cons, Nat.zero_add, sizeBefore_append, sizeBefore_cons,
    if_neg hself, sizeBefore_front slot front (Nat.le_of_eq (Nat.zero_add _)),
    sizeBefore_behind slot behind (Nat.lt_succ_self _)]
  simp only [offset, sizeAbove_append, sizeAbove_cons, Nat.lt_irrefl, if_false]
  omega

/-! ## Assigning -/

variable {order : List (SlotSize × Nat)} {offsets : List Nat} {total : Nat}

theorem assign_fst (total : Nat) (offsets : List Nat) (order : List (SlotSize × Nat)) :
    (assign total offsets order).1 = total + totalSize (order.map Prod.fst) := by
  induction order generalizing total offsets with
  | nil => rfl
  | cons slot rest ih =>
    rw [assign, ih, Nat.add_assoc]
    rfl

theorem length_assign (total : Nat) (offsets : List Nat) (order : List (SlotSize × Nat)) :
    (assign total offsets order).2.length = offsets.length := by
  induction order generalizing total offsets with
  | nil => rfl
  | cons slot rest ih => rw [assign, ih, List.length_set]

/-- A slot that has no turn keeps its offset. -/
theorem getElem?_assign_of_not_mem {number : Nat} (h : number ∉ order.map Prod.snd) :
    (assign total offsets order).2[number]? = offsets[number]? := by
  induction order generalizing total offsets with
  | nil => rfl
  | cons slot rest ih =>
    rw [List.map_cons, List.mem_cons, not_or] at h
    rw [assign, ih h.2, List.getElem?_set_ne (Ne.symm h.1)]

/-- A slot begins behind those that had their turn before it. -/
theorem getElem?_assign {before after : List (SlotSize × Nat)} {number : Nat}
    (horder : order = before ++ (slot, number) :: after) (hnodup : (order.map Prod.snd).Nodup)
    (hnumber : number < offsets.length) :
    (assign total offsets order).2[number]? = some (total + totalSize (before.map Prod.fst)) := by
  subst horder
  induction before generalizing total offsets with
  | nil =>
    have hother := (List.nodup_cons.1 hnodup).1
    rw [List.nil_append, assign, getElem?_assign_of_not_mem hother, List.getElem?_set_self hnumber]
    rfl
  | cons other before ih =>
    have hset : number < (offsets.set other.2 total).length := by rwa [List.length_set]
    rw [List.cons_append, assign, ih hset (List.nodup_cons.1 hnodup).2, Nat.add_assoc]
    rfl

theorem length_offsetsFrom (all front slots : List SlotSize) :
    (offsetsFrom all front slots).length = slots.length := by
  induction slots generalizing front with
  | nil => rfl
  | cons slot slots ih => rw [offsetsFrom, List.length_cons, ih, List.length_cons]

theorem getElem?_offsetsFrom (all front mid behind : List SlotSize) (slot : SlotSize) :
    (offsetsFrom all front (mid ++ slot :: behind))[mid.length]? =
      some (offset all (front ++ mid) slot) := by
  induction mid generalizing front with
  | nil =>
    rw [List.append_nil]
    rfl
  | cons other mid ih =>
    rw [List.append_cons front other mid]
    exact ih (front ++ [other])

/-- Assigning offsets in the order of sizes puts every slot behind the larger ones and the equal
ones given before it. -/
theorem assign_bySize (slots : List SlotSize) :
    assign 0 (List.replicate slots.length 0) (bySize slots) =
      (totalSize slots, offsetsFrom slots [] slots) := by
  apply Prod.ext
  · rw [assign_fst, Nat.zero_add, totalSize_bySize]
  · apply List.ext_getElem?
    intro number
    by_cases hnumber : number < slots.length
    · have hmem : (slots[number], number) ∈ bySize slots := by
        rw [(bySize_perm slots).mem_iff, List.mem_zipIdx_iff_getElem?]
        exact List.getElem?_eq_getElem hnumber
      obtain ⟨front, behind, hslots, rfl⟩ := split_of_mem_bySize hmem
      obtain ⟨before, after, hsorted⟩ := List.append_of_mem hmem
      have hoffset := getElem?_offsetsFrom slots [] front behind slots[front.length]
      rw [← hslots, List.nil_append] at hoffset
      rw [getElem?_assign hsorted (nodup_numbers slots) (by rwa [List.length_replicate]),
        totalSize_before hslots hsorted, Nat.zero_add, hoffset]
    · rw [List.getElem?_eq_none, List.getElem?_eq_none]
      · rwa [length_offsetsFrom, ← Nat.not_lt]
      · rwa [length_assign, List.length_replicate, ← Nat.not_lt]

/-- A layout without the order in which the slots have their turn. -/
theorem of_eq (slots : List SlotSize) :
    of slots = match slots.findSome? slotFault? with
      | some e => .error e
      | none =>
        if maxTotal < totalSize slots then .error (.tooMuchState (totalSize slots))
        else .ok ⟨totalSize slots, offsetsFrom slots [] slots⟩ := by
  cases hfault : slots.findSome? slotFault? with
  | some e => simp only [of, hfault]
  | none => simp only [of, hfault, assign_bySize]

theorem of_eq_error_iff {e : Error} : of slots = .error e ↔
    slots.findSome? slotFault? = some e ∨
      (∀ slot ∈ slots, slotFault? slot = none) ∧ maxTotal < totalSize slots ∧
        e = .tooMuchState (totalSize slots) := by
  rw [of_eq, ← List.findSome?_eq_none_iff]
  cases slots.findSome? slotFault? with
  | some fault => simp
  | none =>
    by_cases hlarge : maxTotal < totalSize slots
    · simp [hlarge, eq_comm]
    · simp [hlarge]

theorem of_eq_ok_iff {layout : Layout} : of slots = .ok layout ↔
    (∀ slot ∈ slots, slotFault? slot = none) ∧ totalSize slots ≤ maxTotal ∧
      layout = ⟨totalSize slots, offsetsFrom slots [] slots⟩ := by
  rw [of_eq, ← List.findSome?_eq_none_iff]
  cases slots.findSome? slotFault? with
  | some fault => simp
  | none =>
    by_cases hlarge : maxTotal < totalSize slots
    · simp [hlarge, Nat.not_le_of_lt hlarge]
    · simp [hlarge, Nat.le_of_not_lt hlarge, eq_comm]

end Rollup.Layout
