import Mathlib.Tactic.ByContra
import Rollup.Codec.Arena
import Rollup.Proofs.Codec.Varint
import Rollup.Proofs.Outcome

/-!
# An arena is a map from handles to blobs

`Arena.Stores a kept` says that the arena `a` keeps the blobs of the list `kept`,
each behind its index: its entry, which is the blob with its length in front,
stands in the buffer at the handle's offset, and the entries of different
handles have no byte in common.  A handle that was used up by a blob that is too
long stands in the list as `none`; where it leads does not matter.

Storing and updating keep that up (`Stores.store`, `Stores.update_eq_ok`).  An
update in place may leave a shorter entry, and an entry that moves to the end
leaves a gap; in both cases the entries that are in use stay apart, which is all
that loading needs.

The main statement compares whole runs with the same requests to a plain list
(`Shelf`): an arena gives the same answers and loads the same blobs.
-/

namespace Rollup

open Outcome

namespace Arena

/-! ## Entries in the buffer -/

/-- A blob with its length in front. -/
def slotOf (blob : Bytes) : Bytes := Varint.encode blob.length.toUInt32 ++ blob

theorem slotOf_length (blob : Bytes) :
    (slotOf blob).length = (Varint.encode blob.length.toUInt32).length + blob.length :=
  List.length_append

theorem slotOf_length_pos (blob : Bytes) : 0 < (slotOf blob).length := by
  have := Varint.encode_length_pos blob.length.toUInt32
  rw [slotOf_length]
  omega

theorem entry_eq_ok {blob : Bytes} (h : blob.length < 1 <<< 32) : entry blob = .ok (slotOf blob) :=
  if_pos h

/-- The buffer has the bytes `piece` at `offset`. -/
def HasAt (bytes : Array UInt8) (offset : Nat) (piece : Bytes) : Prop :=
  piece <+: bytes.toList.drop offset

theorem HasAt.le_size {bytes : Array UInt8} {offset : Nat} {piece : Bytes}
    (h : HasAt bytes offset piece) (hpos : 0 < piece.length) :
    offset + piece.length ≤ bytes.size := by
  have := h.length_le
  simp only [List.length_drop, Array.length_toList] at this
  omega

theorem HasAt.append {bytes : Array UInt8} {offset : Nat} {piece : Bytes}
    (h : HasAt bytes offset piece) (more : Bytes) : HasAt (bytes ++ more.toArray) offset piece := by
  unfold HasAt
  rw [Array.toList_append, List.drop_append]
  exact h.trans (List.prefix_append _ _)

theorem hasAt_append_self (bytes : Array UInt8) (piece : Bytes) :
    HasAt (bytes ++ piece.toArray) bytes.size piece := by
  have hdrop : (bytes ++ piece.toArray).toList.drop bytes.size = piece := by
    rw [Array.toList_append]
    exact List.drop_left' Array.length_toList
  exact ⟨[], by rw [hdrop, List.append_nil]⟩

/-- The bytes that are read at a place where `piece` stands. -/
theorem HasAt.extract_eq {bytes : Array UInt8} {offset : Nat} {piece : Bytes}
    (h : HasAt bytes offset piece) (count : Nat) :
    ∃ t, (bytes.extract offset (offset + count)).toList = (piece ++ t).take count := by
  obtain ⟨t, ht⟩ := h
  exact ⟨t, by rw [Array.toList_extract, List.extract_eq_take_drop, ht, Nat.add_sub_cancel_left]⟩

/-! ### Overwriting -/

/-- What overwriting makes of a buffer. -/
structure Overwrites (bytes : Array UInt8) (place : Nat) (written : Bytes) (new : Array UInt8) :
    Prop where
  le_size : place + written.length ≤ bytes.size
  toList_eq : new.toList =
    bytes.toList.take place ++ written ++ bytes.toList.drop (place + written.length)

/-- Bytes can be overwritten where there are enough of them. -/
theorem exists_overwrite {bytes : Array UInt8} {place : Nat} {written : Bytes}
    (h : place + written.length ≤ bytes.size) :
    ∃ new, overwrite bytes place written = .ok new ∧ Overwrites bytes place written new := by
  induction written generalizing bytes place with
  | nil => exact ⟨bytes, rfl, h, by simp⟩
  | cons b rest ih =>
    simp only [List.length_cons] at h
    have hlt : place < bytes.size := by omega
    have hle : place + 1 + rest.length ≤ (bytes.set place b).size := by
      rw [Array.size_set]
      omega
    obtain ⟨new, hnew, -, hbytes⟩ := ih hle
    refine ⟨new, by rw [overwrite, dif_pos hlt, hnew], by rw [List.length_cons]; omega, ?_⟩
    have hlt' : place < bytes.toList.length := hlt
    rw [hbytes, Array.toList_set, List.take_add_one, List.take_set_of_le (Nat.le_refl _),
      List.drop_set_of_lt (by omega), List.getElem?_set_self hlt']
    simp [Nat.add_assoc, Nat.add_comm 1]

namespace Overwrites

variable {bytes new : Array UInt8} {place : Nat} {written : Bytes}

theorem hasAt_self (h : Overwrites bytes place written new) : HasAt new place written := by
  obtain ⟨hle, hnew⟩ := h
  unfold HasAt
  rw [hnew, List.append_assoc, List.drop_left' (by simp; omega)]
  exact List.prefix_append _ _

/-- What is apart from the place is left alone. -/
theorem hasAt (h : Overwrites bytes place written new) {offset : Nat} {piece : Bytes}
    (hpiece : HasAt bytes offset piece)
    (hapart : offset + piece.length ≤ place ∨ place + written.length ≤ offset) :
    HasAt new offset piece := by
  obtain ⟨hle, hnew⟩ := h
  unfold HasAt at hpiece ⊢
  rw [hnew]
  rcases hapart with hbefore | hbehind
  · have hoff : offset ≤ (bytes.toList.take place).length := by simp; omega
    rw [List.append_assoc, List.drop_append_of_le_length hoff, List.drop_take]
    have htake : piece <+: (bytes.toList.drop offset).take (place - offset) :=
      List.prefix_take_iff.2 ⟨hpiece, by omega⟩
    exact htake.trans (List.prefix_append _ _)
  · have hlen : (bytes.toList.take place ++ written).length = place + written.length := by
      simp; omega
    rw [List.drop_append, hlen, List.drop_eq_nil_of_le (by omega), List.nil_append, List.drop_drop,
      Nat.add_sub_cancel' hbehind]
    exact hpiece

end Overwrites

/-! ## What an arena stores -/

/-- The blob behind a handle, with the offset of its entry. -/
structure Places (a : Arena) (kept : List (Option Bytes)) (handle offset : Nat) (blob : Bytes) :
    Prop where
  offset_eq : a.offsets[handle]? = some offset
  blob_eq : kept[handle]? = some (some blob)

/-- The arena keeps these blobs behind the handles 0, 1, 2, …, of which some have none. -/
structure Stores (a : Arena) (kept : List (Option Bytes)) : Prop where
  size_eq : a.offsets.size = kept.length
  short : ∀ blob, some blob ∈ kept → blob.length < 1 <<< 32
  /-- Every blob's entry is in the buffer. -/
  held : ∀ {handle offset blob}, Places a kept handle offset blob →
    HasAt a.bytes offset (slotOf blob)
  /-- The entries of two handles have no byte in common. -/
  apart : ∀ {h₁ h₂ o₁ o₂ b₁ b₂}, h₁ ≠ h₂ → Places a kept h₁ o₁ b₁ → Places a kept h₂ o₂ b₂ →
    o₁ + (slotOf b₁).length ≤ o₂ ∨ o₂ + (slotOf b₂).length ≤ o₁

theorem stores_empty : Stores .empty [] where
  size_eq := rfl
  short := by simp
  held h := by simpa using h.blob_eq
  apart _ h := by simpa using h.blob_eq

namespace Stores

variable {a : Arena} {kept : List (Option Bytes)}

theorem exists_places (h : Stores a kept) {handle : Nat} {blob : Bytes}
    (hb : kept[handle]? = some (some blob)) : ∃ offset, Places a kept handle offset blob := by
  have hlt : handle < a.offsets.size := by
    rw [h.size_eq]
    exact (List.getElem?_eq_some_iff.1 hb).1
  exact ⟨a.offsets[handle], Array.getElem?_eq_getElem hlt, hb⟩

theorem places_le_size (h : Stores a kept) {handle offset : Nat} {blob : Bytes}
    (hp : Places a kept handle offset blob) : offset + (slotOf blob).length ≤ a.bytes.size :=
  (h.held hp).le_size (slotOf_length_pos blob)

theorem header_eq (h : Stores a kept) {handle offset : Nat} {blob : Bytes}
    (hp : Places a kept handle offset blob) :
    a.header offset = .ok (blob.length, (Varint.encode blob.length.toUInt32).length) := by
  have hshort := h.short blob (List.mem_of_getElem? hp.blob_eq)
  obtain ⟨t, ht⟩ := (h.held hp).extract_eq 5
  rw [header, ht, slotOf, List.append_assoc, Varint.decode?_take_encode_append]
  simp only [Varint.toNat_length hshort]

/-! ### Loading -/

theorem load_eq_ok (h : Stores a kept) {handle : Nat} {blob : Bytes}
    (hb : kept[handle]? = some (some blob)) : a.load handle = .ok blob := by
  obtain ⟨offset, hp⟩ := h.exists_places hb
  have hle := h.places_le_size hp
  obtain ⟨t, ht⟩ := h.held hp
  have hoffset : a.offset handle = .ok offset := by rw [Arena.offset, hp.offset_eq]
  rw [slotOf_length] at hle
  refine bind_eq_ok.2 ⟨_, hoffset, bind_eq_ok.2 ⟨_, h.header_eq hp, ?_⟩⟩
  dsimp only
  rw [if_pos (by omega), Array.toList_extract, List.extract_eq_take_drop, Nat.add_sub_cancel_left,
    ← List.drop_drop, ← ht, slotOf, List.append_assoc, List.drop_left, List.take_left]
  rfl

theorem load_eq_error (h : Stores a kept) {handle : Nat} (hb : kept[handle]? = none) :
    a.load handle = .error (.outOfRange .handle) := by
  have hoffset : a.offsets[handle]? = none := by
    rw [Array.getElem?_eq_none_iff, h.size_eq]
    exact List.getElem?_eq_none_iff.1 hb
  rw [load, Arena.offset, hoffset]
  rfl

/-- Loading is looking up in the list, if no handle is without a blob. -/
theorem load_eq {blobs : List Bytes} (h : Stores a (blobs.map some)) (handle : Nat) :
    a.load handle = match blobs[handle]? with
      | some blob => .ok blob
      | none => .error (.outOfRange .handle) := by
  cases hb : blobs[handle]? with
  | some blob => exact h.load_eq_ok (by rw [List.getElem?_map, hb]; rfl)
  | none => exact h.load_eq_error (by rw [List.getElem?_map, hb]; rfl)

/-! ### Storing -/

/-- What is behind the handles after one more was given out, with a blob or without. -/
theorem places_snoc (h : Stores a kept) {bytes : Array UInt8} {new : Option Bytes} {start : Nat}
    {handle offset : Nat} {found : Bytes}
    (hp : Places ⟨bytes, a.offsets.push start⟩ (kept ++ [new]) handle offset found) :
    Places a kept handle offset found ∨
      handle = kept.length ∧ offset = start ∧ new = some found := by
  obtain ⟨hoffset, hblob⟩ := hp
  rcases Nat.lt_trichotomy handle kept.length with hlt | rfl | hgt
  · rw [Array.getElem?_push_lt (by rwa [h.size_eq])] at hoffset
    rw [List.getElem?_append_left hlt] at hblob
    exact .inl ⟨by rw [← hoffset, Array.getElem?_eq_getElem], hblob⟩
  · rw [← h.size_eq, Array.getElem?_push_size] at hoffset
    rw [List.getElem?_concat_length] at hblob
    exact .inr ⟨rfl, (Option.some.inj hoffset).symm, Option.some.inj hblob⟩
  · rw [List.getElem?_eq_none (by simp; omega)] at hblob
    cases hblob

theorem snoc (h : Stores a kept) {blob : Bytes} (hshort : blob.length < 1 <<< 32) :
    Stores ⟨a.bytes ++ (slotOf blob).toArray, a.offsets.push a.bytes.size⟩
      (kept ++ [some blob]) where
  size_eq := by simp [h.size_eq]
  short := by simpa [or_imp, forall_and] using ⟨h.short, hshort⟩
  held hp := by
    rcases h.places_snoc hp with hold | ⟨-, rfl, ⟨⟩⟩
    · exact (h.held hold).append _
    · exact hasAt_append_self _ _
  apart hne hp₁ hp₂ := by
    rcases h.places_snoc hp₁ with hold₁ | ⟨rfl, rfl, ⟨⟩⟩ <;>
      rcases h.places_snoc hp₂ with hold₂ | ⟨rfl, rfl, ⟨⟩⟩
    · exact h.apart hne hold₁ hold₂
    · exact .inl (h.places_le_size hold₁)
    · exact .inr (h.places_le_size hold₂)
    · exact absurd rfl hne

/-- A handle without a blob is in nobody's way. -/
theorem snoc_none (h : Stores a kept) (start : Nat) :
    Stores ⟨a.bytes, a.offsets.push start⟩ (kept ++ [none]) := by
  have hold {handle offset : Nat} {found : Bytes}
      (hp : Places ⟨a.bytes, a.offsets.push start⟩ (kept ++ [none]) handle offset found) :
      Places a kept handle offset found :=
    (h.places_snoc hp).resolve_right fun ⟨_, _, hnone⟩ ↦ by cases hnone
  refine ⟨by simp [h.size_eq], by simpa using h.short, fun hp ↦ h.held (hold hp), ?_⟩
  exact fun hne hp₁ hp₂ ↦ h.apart hne (hold hp₁) (hold hp₂)

theorem store_eq_ok (h : Stores a kept) {blob : Bytes} (hshort : blob.length < 1 <<< 32)
    (hroom : kept.length < 1 <<< 32) :
    (a.store blob).2 = .ok kept.length ∧ Stores (a.store blob).1 (kept ++ [some blob]) := by
  have hstore : a.store blob =
      (⟨a.bytes ++ (slotOf blob).toArray, a.offsets.push a.bytes.size⟩, .ok kept.length) := by
    rw [store, Arena.size, h.size_eq, if_neg (by omega), entry_eq_ok hshort]
  rw [hstore]
  exact ⟨rfl, h.snoc hshort⟩

theorem store_eq_error (h : Stores a kept) (hfull : 1 <<< 32 ≤ kept.length) (blob : Bytes) :
    a.store blob = (a, .error (.defect .handlesExhausted)) := by
  rw [store, Arena.size, h.size_eq, if_pos hfull]

/-- Whatever is stored, the blobs stay behind their handles.  If a handle is given, it is a new
one and has the new blob. -/
theorem store (h : Stores a kept) (blob : Bytes) :
    ∃ more, Stores (a.store blob).1 (kept ++ more) ∧
      ∀ handle, (a.store blob).2 = .ok handle → handle = kept.length ∧ more = [some blob] := by
  by_cases hroom : kept.length < 1 <<< 32
  · by_cases hshort : blob.length < 1 <<< 32
    · obtain ⟨hhandle, hstores⟩ := h.store_eq_ok hshort hroom
      refine ⟨[some blob], hstores, fun handle hok ↦ ⟨?_, rfl⟩⟩
      exact (Except.ok.inj (hhandle.symm.trans hok)).symm
    · have hstore : a.store blob =
          (⟨a.bytes, a.offsets.push a.bytes.size⟩, .error (.keyTooLong blob.length)) := by
        rw [Arena.store, Arena.size, h.size_eq, if_neg (by omega), entry, if_neg hshort]
      rw [hstore]
      exact ⟨[none], h.snoc_none _, fun _ hok ↦ by cases hok⟩
  · rw [h.store_eq_error (Nat.le_of_not_lt hroom)]
    exact ⟨[], by rwa [List.append_nil], fun _ hok ↦ by cases hok⟩

/-! ### Updating -/

/-- What is behind the handles after one of the blobs was replaced. -/
theorem places_set {bytes : Array UInt8} {offsets : Array Nat} {blob : Bytes} {changed : Nat}
    (hoffsets : ∀ handle, handle ≠ changed → offsets[handle]? = a.offsets[handle]?)
    {handle offset : Nat} {found : Bytes}
    (hp : Places ⟨bytes, offsets⟩ (kept.set changed (some blob)) handle offset found) :
    handle ≠ changed ∧ Places a kept handle offset found ∨
      handle = changed ∧ offsets[changed]? = some offset ∧ found = blob := by
  obtain ⟨hoffset, hblob⟩ := hp
  by_cases hne : handle = changed
  · subst hne
    have hlt := (List.getElem?_eq_some_iff.1 hblob).1
    rw [List.length_set] at hlt
    rw [List.getElem?_set_self hlt] at hblob
    exact .inr ⟨rfl, hoffset, (Option.some.inj (Option.some.inj hblob)).symm⟩
  · rw [List.getElem?_set_ne (Ne.symm hne)] at hblob
    exact .inl ⟨hne, by rw [← hoffsets handle hne]; exact hoffset, hblob⟩

/-- Replacing a short blob by a short one leaves all blobs short. -/
theorem short_set (h : Stores a kept) {blob : Bytes} (hshort : blob.length < 1 <<< 32)
    (changed : Nat) (b : Bytes) (hb : some b ∈ kept.set changed (some blob)) :
    b.length < 1 <<< 32 := by
  rcases List.mem_or_eq_of_mem_set hb with hb | hb
  · exact h.short b hb
  · cases hb
    exact hshort

/-- A new blob that fits into the old entry takes its place. -/
theorem set_in_place (h : Stores a kept) {changed offset : Nat} {old blob : Bytes}
    (hp : Places a kept changed offset old) (hshort : blob.length < 1 <<< 32)
    (hfits : (slotOf blob).length ≤ (slotOf old).length) {bytes : Array UInt8}
    (hbytes : Overwrites a.bytes offset (slotOf blob) bytes) :
    Stores { a with bytes } (kept.set changed (some blob)) := by
  have hsame {o : Nat} (ho : a.offsets[changed]? = some o) : o = offset :=
    Option.some.inj (ho.symm.trans hp.offset_eq)
  refine ⟨by simp [h.size_eq], h.short_set hshort changed, fun hq ↦ ?_, fun hne hq₁ hq₂ ↦ ?_⟩
  · rcases places_set (fun _ _ ↦ rfl) hq with ⟨hne, hold⟩ | ⟨rfl, ho, rfl⟩
    · refine hbytes.hasAt (h.held hold) ?_
      rcases h.apart hne hold hp with hbefore | hbehind
      · exact .inl hbefore
      · exact .inr (by omega)
    · cases hsame ho
      exact hbytes.hasAt_self
  · rcases places_set (fun _ _ ↦ rfl) hq₁ with ⟨hne₁, hold₁⟩ | ⟨rfl, ho₁, rfl⟩ <;>
      rcases places_set (fun _ _ ↦ rfl) hq₂ with ⟨hne₂, hold₂⟩ | ⟨rfl, ho₂, rfl⟩
    · exact h.apart hne hold₁ hold₂
    · cases hsame ho₂
      rcases h.apart hne hold₁ hp with hbefore | hbehind
      · exact .inl hbefore
      · exact .inr (by omega)
    · cases hsame ho₁
      rcases h.apart hne hp hold₂ with hbefore | hbehind
      · exact .inl (by omega)
      · exact .inr hbehind
    · exact absurd rfl hne

/-- A new blob that does not fit goes to the end, and the old entry is left. -/
theorem set_at_end (h : Stores a kept) {changed : Nat} (hlt : changed < a.offsets.size)
    {blob : Bytes} (hshort : blob.length < 1 <<< 32) :
    Stores ⟨a.bytes ++ (slotOf blob).toArray, a.offsets.set changed a.bytes.size⟩
      (kept.set changed (some blob)) := by
  have hother : ∀ handle, handle ≠ changed →
      (a.offsets.set changed a.bytes.size)[handle]? = a.offsets[handle]? :=
    fun handle hne ↦ Array.getElem?_set_ne hlt (Ne.symm hne)
  have hsame {o : Nat} (ho : (a.offsets.set changed a.bytes.size)[changed]? = some o) :
      o = a.bytes.size := by
    rw [Array.getElem?_set_self] at ho
    exact (Option.some.inj ho).symm
  refine ⟨by simp [h.size_eq], h.short_set hshort changed, fun hq ↦ ?_, fun hne hq₁ hq₂ ↦ ?_⟩
  · rcases places_set hother hq with ⟨-, hold⟩ | ⟨rfl, ho, rfl⟩
    · exact (h.held hold).append _
    · cases hsame ho
      exact hasAt_append_self _ _
  · rcases places_set hother hq₁ with ⟨hne₁, hold₁⟩ | ⟨rfl, ho₁, rfl⟩ <;>
      rcases places_set hother hq₂ with ⟨hne₂, hold₂⟩ | ⟨rfl, ho₂, rfl⟩
    · exact h.apart hne hold₁ hold₂
    · cases hsame ho₂
      exact .inl (h.places_le_size hold₁)
    · cases hsame ho₁
      exact .inr (h.places_le_size hold₂)
    · exact absurd rfl hne

theorem update_eq_ok (h : Stores a kept) {handle : Nat} {old blob : Bytes}
    (hold : kept[handle]? = some (some old)) (hshort : blob.length < 1 <<< 32) :
    ∃ a', a.update handle blob = .ok a' ∧ Stores a' (kept.set handle (some blob)) := by
  obtain ⟨offset, hp⟩ := h.exists_places hold
  obtain ⟨hlt, rfl⟩ := Array.getElem?_eq_some_iff.1 hp.offset_eq
  rw [update, dif_pos hlt]
  by_cases hfits : (slotOf blob).length ≤ (slotOf old).length
  · obtain ⟨bytes, hwritten, hbytes⟩ := exists_overwrite
      (Nat.le_trans (Nat.add_le_add_left hfits _) (h.places_le_size hp))
    refine ⟨_, ?_, h.set_in_place hp hshort hfits hbytes⟩
    refine bind_eq_ok.2 ⟨_, h.header_eq hp, bind_eq_ok.2 ⟨_, entry_eq_ok hshort, ?_⟩⟩
    dsimp only
    rw [if_pos (by rwa [← slotOf_length]), hwritten]
    rfl
  · refine ⟨_, ?_, h.set_at_end hlt hshort⟩
    refine bind_eq_ok.2 ⟨_, h.header_eq hp, bind_eq_ok.2 ⟨_, entry_eq_ok hshort, ?_⟩⟩
    dsimp only
    rw [if_neg (by rwa [← slotOf_length])]
    rfl

/-- A blob that is too long is not put behind a handle. -/
theorem update_eq_error (h : Stores a kept) {handle : Nat} {old blob : Bytes}
    (hold : kept[handle]? = some (some old)) (hlong : ¬ blob.length < 1 <<< 32) :
    a.update handle blob = .error (.keyTooLong blob.length) := by
  obtain ⟨offset, hp⟩ := h.exists_places hold
  obtain ⟨hlt, rfl⟩ := Array.getElem?_eq_some_iff.1 hp.offset_eq
  rw [update, dif_pos hlt]
  dsimp only
  rw [h.header_eq hp, ok_bind, entry, if_neg hlong]
  rfl

end Stores

/-- Whether a new blob is kept depends on its length alone, unless there are no handles left. -/
theorem verdict_store {a : Arena} (h : a.size < 1 <<< 32) (blob : Bytes) :
    verdict (a.store blob).2 = verdict (entry blob) := by
  rw [store, if_neg (Nat.not_le.2 h)]
  cases entry blob <;> rfl

theorem store_of_full {a : Arena} (h : 1 <<< 32 ≤ a.size) (blob : Bytes) :
    a.store blob = (a, .error (.defect .handlesExhausted)) := if_pos h

theorem size_lt_of_store {a : Arena} {blob : Bytes} {handle : Nat}
    (h : (a.store blob).2 = .ok handle) : a.size < 1 <<< 32 := by
  refine Nat.lt_of_not_le fun hfull ↦ ?_
  rw [store_of_full hfull] at h
  cases h

/-- A blob with a handle has an entry. -/
theorem entry_of_store {a : Arena} {blob : Bytes} {handle : Nat}
    (h : (a.store blob).2 = .ok handle) : ∃ e, entry blob = .ok e :=
  verdict_eq_ok.1 ((verdict_store (size_lt_of_store h) blob).symm.trans (verdict_eq_ok.2 ⟨_, h⟩))

/-- As long as there are handles, every blob takes one, also a blob that is too long. -/
theorem size_store (a : Arena) (blob : Bytes) :
    (a.store blob).1.size = if 1 <<< 32 ≤ a.size then a.size else a.size + 1 := by
  rw [store]
  split
  · rfl
  · cases entry blob <;> exact Array.size_push _

theorem size_update {a a' : Arena} {handle : Nat} {blob : Bytes}
    (h : a.update handle blob = .ok a') : a'.size = a.size := by
  rw [update] at h
  split at h
  · rename_i hlt
    obtain ⟨⟨length, taken⟩, -, h⟩ := bind_eq_ok.1 h
    obtain ⟨e, -, h⟩ := bind_eq_ok.1 h
    dsimp only at h
    split at h
    · obtain ⟨bytes, -, ⟨⟩⟩ := bind_eq_ok.1 h
      rfl
    · cases h
      exact Array.size_set hlt
  · cases h

end Arena

/-! ## Runs

A run is any number of requests to an empty arena.  Its second side is a shelf:
the list of the blobs, to which a new one is added at the end and in which an
update replaces one. -/

namespace Shelf

inductive Request where
  /-- Keep a new blob. -/
  | store (blob : Bytes)
  /-- Put another blob behind a handle. -/
  | update (handle : Nat) (blob : Bytes)
  deriving DecidableEq, Repr

/-- Whether the blob of a request can have a length in front, and its handle has
been given out for one of `blobs`. -/
def Request.Fair (blobs : List Bytes) : Request → Prop
  | .store blob => blob.length < 1 <<< 32
  | .update handle blob => blob.length < 1 <<< 32 ∧ handle < blobs.length

/-- Answers a request with the handle that its blob is behind.  Handles have 32
bits, so there are no more than 2³² blobs. -/
def serve (blobs : List Bytes) : Request → List Bytes × Except Error Nat
  | .store blob =>
    if blobs.length < 1 <<< 32 then (blobs ++ [blob], .ok blobs.length)
    else (blobs, .error (.defect .handlesExhausted))
  | .update handle blob => (blobs.set handle blob, .ok handle)

/-- Answers requests one after the other. -/
def serveAll (blobs : List Bytes) : List Request → List Bytes × List (Except Error Nat)
  | [] => (blobs, [])
  | r :: rest =>
    let (blobs, answer) := serve blobs r
    let (blobs, answers) := serveAll blobs rest
    (blobs, answer :: answers)

/-- All requests of a run are fair when their turn comes. -/
def AllFair (blobs : List Bytes) : List Request → Prop
  | [] => True
  | r :: rest => r.Fair blobs ∧ AllFair (serve blobs r).1 rest

/-- The number of requests that bring a new blob. -/
def stores : List Request → Nat
  | [] => 0
  | .store _ :: rest => stores rest + 1
  | .update _ _ :: rest => stores rest

/-- While there are handles left, every request is answered with a handle and
every stored blob is one more on the shelf. -/
theorem serveAll_of_room {blobs : List Bytes} {requests : List Request}
    (h : blobs.length + stores requests ≤ 1 <<< 32) :
    (serveAll blobs requests).1.length = blobs.length + stores requests ∧
      ∀ answer ∈ (serveAll blobs requests).2, ∃ handle, answer = .ok handle := by
  induction requests generalizing blobs with
  | nil => simp [serveAll, stores]
  | cons r rest ih =>
    cases r with
    | store blob =>
      simp only [stores] at h
      have hroom : blobs.length < 1 <<< 32 := by omega
      have hrest : (blobs ++ [blob]).length + stores rest ≤ 1 <<< 32 := by simp; omega
      obtain ⟨hlength, hanswers⟩ := ih hrest
      simp only [serveAll, serve, if_pos hroom, stores]
      exact ⟨by rw [hlength]; simp; omega,
        List.forall_mem_cons.2 ⟨⟨_, rfl⟩, hanswers⟩⟩
    | update handle blob =>
      simp only [stores] at h
      have hrest : (blobs.set handle blob).length + stores rest ≤ 1 <<< 32 := by simpa using h
      obtain ⟨hlength, hanswers⟩ := ih hrest
      simp only [serveAll, serve, stores]
      exact ⟨by rw [hlength, List.length_set], List.forall_mem_cons.2 ⟨⟨_, rfl⟩, hanswers⟩⟩

end Shelf

namespace Arena

open Rollup.Shelf (Request)

/-- Answers a request as `Shelf.serve` does. -/
def serve (a : Arena) : Request → Arena × Except Error Nat
  | .store blob => a.store blob
  | .update handle blob => match a.update handle blob with
    | .ok a' => (a', .ok handle)
    | .error e => (a, .error e)

@[inherit_doc Shelf.serveAll]
def serveAll (a : Arena) : List Request → Arena × List (Except Error Nat)
  | [] => (a, [])
  | r :: rest =>
    let (a, answer) := serve a r
    let (a, answers) := serveAll a rest
    (a, answer :: answers)

/-- One request: the arena goes on storing what the shelf has. -/
theorem Stores.serve {a : Arena} {blobs : List Bytes} (h : Stores a (blobs.map some)) {r : Request}
    (hfair : r.Fair blobs) :
    (a.serve r).2 = (Shelf.serve blobs r).2 ∧
      Stores (a.serve r).1 ((Shelf.serve blobs r).1.map some) := by
  cases r with
  | store blob =>
    by_cases hroom : blobs.length < 1 <<< 32
    · obtain ⟨hhandle, hs⟩ := h.store_eq_ok hfair (by rwa [List.length_map])
      rw [List.length_map] at hhandle
      simp only [Arena.serve, Shelf.serve, if_pos hroom, List.map_append, List.map_singleton]
      exact ⟨hhandle, hs⟩
    · have ha := h.store_eq_error (by rw [List.length_map]; exact Nat.le_of_not_lt hroom) blob
      simp only [Arena.serve, Shelf.serve, ha, if_neg hroom]
      exact ⟨trivial, h⟩
  | update handle blob =>
    obtain ⟨hshort, hlt⟩ := hfair
    have hold : (blobs.map some)[handle]? = some (some blobs[handle]) := by
      rw [List.getElem?_map, List.getElem?_eq_getElem hlt]
      rfl
    obtain ⟨a', ha, hs⟩ := h.update_eq_ok hold hshort
    simp only [Arena.serve, Shelf.serve, ha, List.map_set]
    exact ⟨trivial, hs⟩

theorem Stores.serveAll {a : Arena} {blobs : List Bytes} (h : Stores a (blobs.map some))
    {requests : List Request} (hfair : Shelf.AllFair blobs requests) :
    (a.serveAll requests).2 = (Shelf.serveAll blobs requests).2 ∧
      Stores (a.serveAll requests).1 ((Shelf.serveAll blobs requests).1.map some) := by
  induction requests generalizing a blobs with
  | nil => exact ⟨rfl, h⟩
  | cons r rest ih =>
    obtain ⟨hanswer, hnext⟩ := h.serve hfair.1
    obtain ⟨hanswers, hs⟩ := ih hnext hfair.2
    simp only [Arena.serveAll, Shelf.serveAll, hanswer, hanswers]
    exact ⟨trivial, hs⟩

/-- An arena behaves like a list of blobs under any run of fair requests.  It
answers every request as the list does, has as many blobs, and loads for every
handle what was last stored or updated there.  As long as no more than 2³²
blobs are stored, no request fails and each stored blob is one more.

Every step of a run ends a shorter run, so all this holds after each of them. -/
theorem serveAll_eq_shelf {requests : List Request} (hfair : Shelf.AllFair [] requests) :
    let run := Arena.empty.serveAll requests
    let shelf := Shelf.serveAll [] requests
    run.2 = shelf.2 ∧ run.1.size = shelf.1.length ∧
      (∀ handle, run.1.load handle = match shelf.1[handle]? with
        | some blob => .ok blob
        | none => .error (.outOfRange .handle)) ∧
      (Shelf.stores requests ≤ 1 <<< 32 →
        run.1.size = Shelf.stores requests ∧ ∀ answer ∈ run.2, ∃ handle, answer = .ok handle) := by
  have hempty : Stores .empty (([] : List Bytes).map some) := stores_empty
  obtain ⟨hanswers, hs⟩ := hempty.serveAll hfair
  have hsize := hs.size_eq.trans (List.length_map _)
  refine ⟨hanswers, hsize, hs.load_eq, fun hroom ↦ ?_⟩
  have hroom' : ([] : List Bytes).length + Shelf.stores requests ≤ 1 <<< 32 := by simpa using hroom
  obtain ⟨hlength, hok⟩ := Shelf.serveAll_of_room hroom'
  rw [hanswers]
  exact ⟨hsize.trans (by simpa using hlength), hok⟩

/-- Two blobs, of which the first becomes shorter and then too long for its
place. -/
theorem serveAll_eq_shelf_moved :
    let requests : List Request := [.store [1, 2, 3, 4], .store [5], .update 0 [6, 7],
      .update 0 [1, 2, 3, 4, 5, 6]]
    Shelf.AllFair [] requests ∧ Shelf.stores requests ≤ 1 <<< 32 ∧
      (Arena.empty.serveAll requests).2 = [.ok 0, .ok 1, .ok 0, .ok 0] ∧
      (Arena.empty.serveAll requests).1.load 0 = .ok [1, 2, 3, 4, 5, 6] ∧
      (Arena.empty.serveAll requests).1.load 1 = .ok [5] := by
  intro requests
  have hfair : Shelf.AllFair [] requests := by
    simp [requests, Shelf.AllFair, Request.Fair, Shelf.serve]
  have hroom : Shelf.stores requests ≤ 1 <<< 32 := by simp [requests, Shelf.stores]
  obtain ⟨hanswers, -, hload, -⟩ := serveAll_eq_shelf hfair
  exact ⟨hfair, hroom, hanswers, hload 0, hload 1⟩

end Arena

end Rollup
