import Rollup.Proofs.Row

/-!
# The fields of input lines

The fields of a line are its maximal runs of bytes that are no separators.  `Runs` cuts a line into
separators and fields from left to right; every line is cut in exactly one way (`exists_runs`,
`Runs.spansFrom_eq`), and that is how its spans are found.

What spans are without regard to how they are found is `IsRun`: they are not empty, have no
separator inside, and one on either side or the end of the line.  That the fields are all such runs
follows from the cut by induction, one property after the other (`Runs.isRun`, `Runs.ordered`,
`Runs.covered`).  If fields are joined by separators, the cut is known beforehand, so they are found
again (`fields_of_joined`).
-/

namespace Rollup.Row

open Outcome

variable {line rest value gap text front behind : Bytes} {values : List Bytes}
  {position start : Nat} {spans done : List (Nat × Nat)}

/-! ## Cutting a line -/

/-- At least one byte, and none of them a separator. -/
def IsField (value : Bytes) : Prop := value ≠ [] ∧ ∀ b ∈ value, isSeparator b = false

/-- Separators only, or nothing. -/
def IsGap (gap : Bytes) : Prop := ∀ b ∈ gap, isSeparator b = true

/-- The line is over, or goes on with a separator. -/
def Apart (rest : Bytes) : Prop := ∀ b, rest.head? = some b → isSeparator b = true

/-- A field and where it begins. -/
structure Found where
  start : Nat
  value : Bytes

/-- From its first byte up to, and not including, its end. -/
def Found.span (f : Found) : Nat × Nat := (f.start, f.start + f.value.length)

/-- What is left of a line from `position` on has these fields. -/
inductive Runs : Nat → Bytes → List Found → Prop
  | nil {position : Nat} : Runs position [] []
  | separator {position : Nat} {b : UInt8} {rest : Bytes} {found : List Found} :
      isSeparator b = true → Runs (position + 1) rest found → Runs position (b :: rest) found
  | field {position : Nat} {value rest : Bytes} {found : List Found} :
      IsField value → Apart rest → Runs (position + value.length) rest found →
        Runs position (value ++ rest) (⟨position, value⟩ :: found)

variable {found : List Found}

theorem apart_nil : Apart [] := nofun

theorem apart_cons {b : UInt8} (h : isSeparator b = true) (rest : Bytes) : Apart (b :: rest) := by
  rintro _ ⟨⟩
  exact h

theorem IsField.not_apart (h : IsField value) (rest : Bytes) : ¬ Apart (value ++ rest) := by
  obtain ⟨hne, hvalue⟩ := h
  obtain ⟨b, more, rfl⟩ := List.exists_cons_of_ne_nil hne
  intro hapart
  have hb := hapart b rfl
  rw [hvalue b List.mem_cons_self] at hb
  cases hb

theorem IsField.length_pos (h : IsField value) : 0 < value.length :=
  List.length_pos_of_ne_nil h.1

/-- Some byte in front of a cut becomes a field of its own or the beginning of the first one. -/
theorem Runs.exists_cons {b : UInt8} (hb : isSeparator b = false)
    (h : Runs (position + 1) rest found) : ∃ found', Runs position (b :: rest) found' := by
  have hone : IsField [b] := ⟨List.cons_ne_nil _ _, List.forall_mem_singleton.2 hb⟩
  cases h with
  | nil => exact ⟨_, .field hone apart_nil .nil⟩
  | @separator _ b' rest found hb' h =>
    exact ⟨_, .field hone (apart_cons hb' rest) (.separator hb' h)⟩
  | @field _ value rest found hvalue hapart h =>
    have hlonger : IsField (b :: value) :=
      ⟨List.cons_ne_nil _ _, List.forall_mem_cons.2 ⟨hb, hvalue.2⟩⟩
    refine ⟨⟨position, b :: value⟩ :: found, .field hlonger hapart ?_⟩
    rwa [List.length_cons, Nat.add_comm value.length, ← Nat.add_assoc]

theorem exists_runs (position : Nat) (line : Bytes) : ∃ found, Runs position line found := by
  induction line generalizing position with
  | nil => exact ⟨[], .nil⟩
  | cons b rest ih =>
    obtain ⟨found, h⟩ := ih (position + 1)
    cases hb : isSeparator b with
    | true => exact ⟨found, .separator hb h⟩
    | false => exact h.exists_cons hb

/-! ### The spans of a cut -/

theorem spansFrom_append (h : ∀ b ∈ value, isSeparator b = false) (done : List (Nat × Nat))
    (start position : Nat) (rest : Bytes) :
    spansFrom done start position (value ++ rest) =
      spansFrom done start (position + value.length) rest := by
  induction value generalizing position with
  | nil => rfl
  | cons b value ih =>
    rw [List.forall_mem_cons] at h
    rw [List.cons_append, spansFrom, if_neg (ne_true_of_eq_false h.1), ih h.2, List.length_cons,
      Nat.add_assoc, Nat.add_comm 1]

/-- A field ends where the line goes on with a separator, or is over. -/
theorem spansFrom_of_apart (hapart : Apart rest) (hlt : start < position)
    (done : List (Nat × Nat)) :
    spansFrom done start position rest =
      spansFrom ((start, position) :: done) position position rest := by
  cases rest with
  | nil => rw [spansFrom, spansFrom, if_pos hlt, if_neg (Nat.lt_irrefl _)]
  | cons b rest =>
    have hb := hapart b rfl
    rw [spansFrom, spansFrom, if_pos hb, if_pos hb, if_pos hlt, if_neg (Nat.lt_irrefl _)]

theorem Runs.spansFrom_eq (h : Runs position rest found) (done : List (Nat × Nat)) :
    spansFrom done position position rest = done.reverse ++ found.map Found.span := by
  induction h generalizing done with
  | nil => rw [spansFrom, if_neg (Nat.lt_irrefl _), List.map_nil, List.append_nil]
  | separator hb h ih => rw [spansFrom, if_pos hb, if_neg (Nat.lt_irrefl _), ih]
  | @field position value rest found hvalue hapart h ih =>
    have hlt : position < position + value.length := Nat.lt_add_of_pos_right hvalue.length_pos
    rw [spansFrom_append hvalue.2, spansFrom_of_apart hapart hlt, ih, List.reverse_cons,
      List.append_assoc, List.map_cons]
    rfl

theorem Runs.fieldSpans_eq (h : Runs 0 line found) : fieldSpans line = found.map Found.span :=
  h.spansFrom_eq []

/-- The fields of a cut are what their spans enclose. -/
theorem Runs.slices (h : Runs position rest found) (hposition : front.length = position) :
    (found.map Found.span).mapM (slice (front ++ rest)) = .ok (found.map Found.value) := by
  induction h generalizing front with
  | nil => rfl
  | @separator position b rest found hb h ih =>
    rw [List.append_cons]
    apply ih
    rw [List.length_append, hposition, List.length_singleton]
  | @field position value rest found hvalue hapart h ih =>
    subst hposition
    rw [List.map_cons, List.map_cons, mapM_cons_eq_ok]
    refine ⟨value, found.map Found.value, slice_append front value rest, ?_, rfl⟩
    rw [← List.append_assoc]
    exact ih List.length_append

theorem Runs.fields_eq (h : Runs 0 line found) :
    (ofLine line).fields = .ok (found.map Found.value) := by
  have hlength : ([] : Bytes).length = 0 := rfl
  rw [fields, ofLine, h.fieldSpans_eq]
  exact h.slices hlength

/-- The fields of an input line can be read. -/
theorem fields_ofLine (line : Bytes) : ∃ record, (ofLine line).fields = .ok record := by
  obtain ⟨found, h⟩ := exists_runs 0 line
  exact ⟨_, h.fields_eq⟩

/-! ## Runs of bytes that are no separators -/

/-- A separator of the line stands there. -/
def SeparatorAt (text : Bytes) (i : Nat) : Prop := ∃ b, text[i]? = some b ∧ isSeparator b = true

/-- A span that cannot be made longer without a separator in it. -/
structure IsRun (line : Bytes) (span : Nat × Nat) : Prop where
  nonempty : span.1 < span.2
  inside : span.2 ≤ line.length
  unbroken : ∀ i, span.1 ≤ i → i < span.2 → ¬ SeparatorAt line i
  begins : span.1 = 0 ∨ SeparatorAt line (span.1 - 1)
  ends : span.2 = line.length ∨ SeparatorAt line span.2

/-! ### What is left of a line -/

theorem drop_of_append (h : line.drop position = value ++ rest) :
    line.drop (position + value.length) = rest := by
  rw [← List.drop_drop, h, List.drop_left]

theorem drop_of_cons {b : UInt8} (h : line.drop position = b :: rest) :
    line.drop (position + 1) = rest := by
  rw [← List.drop_drop, h, List.drop_one, List.tail_cons]

theorem separatorAt_of_drop {b : UInt8} (h : line.drop position = b :: rest)
    (hb : isSeparator b = true) : SeparatorAt line position := by
  refine ⟨b, ?_, hb⟩
  rw [← Nat.add_zero position, ← List.getElem?_drop, h]
  rfl

theorem not_separatorAt_of_drop (h : line.drop position = value ++ rest) (hvalue : IsField value)
    {i : Nat} (hle : position ≤ i) (hlt : i < position + value.length) : ¬ SeparatorAt line i := by
  obtain ⟨j, rfl⟩ := Nat.exists_eq_add_of_le hle
  rintro ⟨b, hb, hsep⟩
  rw [← List.getElem?_drop, h, List.getElem?_append_left (by omega)] at hb
  rw [hvalue.2 b (List.mem_of_getElem? hb)] at hsep
  cases hsep

/-- Behind a field the line is over or a separator stands. -/
theorem ends_of_drop (h : line.drop position = value ++ rest) (hvalue : IsField value)
    (hapart : Apart rest) :
    position + value.length ≤ line.length ∧
      (position + value.length = line.length ∨ SeparatorAt line (position + value.length)) := by
  have hlength := congrArg List.length h
  have hpos := hvalue.length_pos
  rw [List.length_drop, List.length_append] at hlength
  refine ⟨by omega, ?_⟩
  have hrest := drop_of_append h
  cases rest with
  | nil =>
    rw [List.length_nil] at hlength
    exact .inl (by omega)
  | cons b rest => exact .inr (separatorAt_of_drop hrest (hapart b rfl))

/-! ### The fields of a cut are the runs -/

theorem Runs.isRun (h : Runs position rest found) (hdrop : line.drop position = rest)
    (hbegins : (position = 0 ∨ SeparatorAt line (position - 1)) ∨ Apart rest) :
    ∀ f ∈ found, IsRun line f.span := by
  induction h with
  | nil => exact List.forall_mem_nil _
  | @separator position b rest found hb h ih =>
    apply ih
    · exact drop_of_cons hdrop
    · exact .inl (.inr (separatorAt_of_drop hdrop hb))
  | @field position value rest found hvalue hapart h ih =>
    obtain ⟨hinside, hends⟩ := ends_of_drop hdrop hvalue hapart
    refine List.forall_mem_cons.2 ⟨?_, ih (drop_of_append hdrop) (.inr hapart)⟩
    exact {
      nonempty := Nat.lt_add_of_pos_right hvalue.length_pos
      inside := hinside
      unbroken := fun i ↦ not_separatorAt_of_drop hdrop hvalue
      begins := hbegins.resolve_right (hvalue.not_apart rest)
      ends := hends }

theorem Runs.le_start (h : Runs position rest found) : ∀ f ∈ found, position ≤ f.start := by
  induction h with
  | nil => exact List.forall_mem_nil _
  | separator hb h ih => exact fun f hf ↦ Nat.le_of_succ_le (ih f hf)
  | field hvalue hapart h ih =>
    refine List.forall_mem_cons.2 ⟨Nat.le_refl _, fun f hf ↦ ?_⟩
    exact Nat.le_trans (Nat.le_add_right _ _) (ih f hf)

/-- Where a line goes on with a separator, no field begins. -/
theorem Runs.lt_start (h : Runs position rest found) (hapart : Apart rest) :
    ∀ f ∈ found, position < f.start := by
  cases h with
  | nil => exact List.forall_mem_nil _
  | separator hb h => exact h.le_start
  | field hvalue => exact absurd hapart (hvalue.not_apart _)

theorem Runs.ordered (h : Runs position rest found) :
    (found.map Found.span).Pairwise fun s t ↦ s.2 < t.1 := by
  induction h with
  | nil => exact List.Pairwise.nil
  | separator hb h ih => exact ih
  | field hvalue hapart h ih =>
    rw [List.map_cons, List.pairwise_cons]
    refine ⟨fun t ht ↦ ?_, ih⟩
    obtain ⟨f, hf, rfl⟩ := List.mem_map.1 ht
    exact h.lt_start hapart f hf

theorem Runs.covered (h : Runs position rest found) (hdrop : line.drop position = rest) {i : Nat}
    (hle : position ≤ i) (hlt : i < line.length) (hi : ¬ SeparatorAt line i) :
    ∃ span ∈ found.map Found.span, span.1 ≤ i ∧ i < span.2 := by
  induction h with
  | nil =>
    have hlength := congrArg List.length hdrop
    rw [List.length_drop, List.length_nil] at hlength
    omega
  | @separator position b rest found hb h ih =>
    have hne : position ≠ i := by
      rintro rfl
      exact hi (separatorAt_of_drop hdrop hb)
    exact ih (drop_of_cons hdrop) (by omega)
  | @field position value rest found hvalue hapart h ih =>
    by_cases hfirst : i < position + value.length
    · exact ⟨_, List.mem_cons_self, hle, hfirst⟩
    · obtain ⟨span, hspan, hbounds⟩ := ih (drop_of_append hdrop) (Nat.not_lt.1 hfirst)
      exact ⟨span, List.mem_cons_of_mem _ hspan, hbounds⟩

namespace IsRun

variable {s t : Nat × Nat} {i : Nat}

/-- A run that has a byte of another one does not begin behind it. -/
theorem begin_le (hs : IsRun line s) (ht : IsRun line t) (hsi : s.1 ≤ i ∧ i < s.2)
    (hti : t.1 ≤ i ∧ i < t.2) : t.1 ≤ s.1 := by
  by_contra hlt
  rcases ht.begins with hzero | hsep
  · omega
  · exact hs.unbroken (t.1 - 1) (by omega) (by omega) hsep

/-- A run that has a byte of another one does not end in front of it. -/
theorem le_end (hs : IsRun line s) (ht : IsRun line t) (hsi : s.1 ≤ i ∧ i < s.2)
    (hti : t.1 ≤ i ∧ i < t.2) : s.2 ≤ t.2 := by
  by_contra hlt
  rcases ht.ends with hend | hsep
  · have hinside := hs.inside
    omega
  · exact hs.unbroken t.2 (by omega) (by omega) hsep

/-- Two runs with a byte in common are the same. -/
theorem eq_of_overlap (hs : IsRun line s) (ht : IsRun line t) (hsi : s.1 ≤ i ∧ i < s.2)
    (hti : t.1 ≤ i ∧ i < t.2) : s = t := by
  apply Prod.ext
  · exact Nat.le_antisymm (ht.begin_le hs hti hsi) (hs.begin_le ht hsi hti)
  · exact Nat.le_antisymm (hs.le_end ht hsi hti) (ht.le_end hs hti hsi)

end IsRun

theorem Runs.mem_iff (h : Runs 0 line found) {span : Nat × Nat} :
    span ∈ found.map Found.span ↔ IsRun line span := by
  have hruns : ∀ s ∈ found.map Found.span, IsRun line s :=
    List.forall_mem_map.2 (h.isRun List.drop_zero (.inl (.inl rfl)))
  refine ⟨hruns span, fun hspan ↦ ?_⟩
  have hfirst : ¬ SeparatorAt line span.1 := hspan.unbroken _ (Nat.le_refl _) hspan.nonempty
  have hlt : span.1 < line.length := Nat.lt_of_lt_of_le hspan.nonempty hspan.inside
  obtain ⟨s, hs, hsi⟩ := h.covered List.drop_zero (Nat.zero_le _) hlt hfirst
  rwa [hspan.eq_of_overlap (hruns s hs) ⟨Nat.le_refl _, hspan.nonempty⟩ hsi]

/-! ## Joined fields -/

/-- The fields in order, with separators between any two of them. -/
inductive Joined : List Bytes → Bytes → Prop
  | nil : Joined [] []
  | single (value : Bytes) : Joined [value] value
  | cons {value next gap text : Bytes} {rest : List Bytes} :
      gap ≠ [] → IsGap gap → Joined (next :: rest) text →
        Joined (value :: next :: rest) (value ++ (gap ++ text))

theorem Runs.behind_gap (h : Runs (position + gap.length) rest found) (hgap : IsGap gap) :
    Runs position (gap ++ rest) found := by
  induction gap generalizing position with
  | nil => exact h
  | cons b gap ih =>
    obtain ⟨hb, hgap⟩ := List.forall_mem_cons.1 hgap
    refine .separator hb (ih ?_ hgap)
    rwa [Nat.add_assoc, Nat.add_comm 1]

theorem IsGap.apart (hgap : IsGap gap) (hne : gap ≠ []) (rest : Bytes) : Apart (gap ++ rest) := by
  obtain ⟨b, more, rfl⟩ := List.exists_cons_of_ne_nil hne
  exact apart_cons (hgap b List.mem_cons_self) _

theorem runs_gap (hgap : IsGap gap) (position : Nat) : Runs position gap [] := by
  have hend : Runs (position + gap.length) [] [] := .nil
  have h := hend.behind_gap hgap
  rwa [List.append_nil] at h

/-- The cut of joined fields. -/
theorem exists_runs_of_joined (h : Joined values text) (hvalues : ∀ value ∈ values, IsField value)
    (hbehind : IsGap behind) (position : Nat) :
    ∃ found, Runs position (text ++ behind) found ∧ found.map Found.value = values := by
  induction h generalizing position with
  | nil => exact ⟨[], runs_gap hbehind position, rfl⟩
  | single value =>
    refine ⟨_, .field (List.forall_mem_singleton.1 hvalues) ?_ (runs_gap hbehind _), rfl⟩
    exact fun b hb ↦ hbehind b (List.mem_of_mem_head? hb)
  | @cons value next gap text rest hne hgap h ih =>
    obtain ⟨hvalue, hrest⟩ := List.forall_mem_cons.1 hvalues
    obtain ⟨found, hfound, hmap⟩ := ih hrest (position + value.length + gap.length)
    refine ⟨⟨position, value⟩ :: found, ?_, congrArg (value :: ·) hmap⟩
    rw [List.append_assoc, List.append_assoc]
    exact .field hvalue (hgap.apart hne _) (hfound.behind_gap hgap)

theorem fields_of_joined (h : Joined values text) (hvalues : ∀ value ∈ values, IsField value)
    (hfront : IsGap front) (hbehind : IsGap behind) :
    (ofLine (front ++ (text ++ behind))).fields = .ok values := by
  obtain ⟨found, hfound, rfl⟩ := exists_runs_of_joined h hvalues hbehind (0 + front.length)
  exact (hfound.behind_gap hfront).fields_eq

/-! ## From separator to separator -/

/-- The places of the separators in what is left of a line from `position` on. -/
def separators (position : Nat) : Bytes → List Nat
  | [] => []
  | b :: rest =>
    if isSeparator b then position :: separators (position + 1) rest
    else separators (position + 1) rest

/-- Ends the field that began at the second component, unless it is empty, and begins the next one
behind the separator. -/
def cut (state : List (Nat × Nat) × Nat) (separator : Nat) : List (Nat × Nat) × Nat :=
  (if state.2 < separator then state.1 ++ [(state.2, separator)] else state.1, separator + 1)

/-- The last field goes to the end of the line. -/
def close (length : Nat) (state : List (Nat × Nat) × Nat) : List (Nat × Nat) :=
  if state.2 < length then state.1 ++ [(state.2, length)] else state.1

/-- Puts the spans of the fields of a line into a list that may still hold those of another one,
and is emptied first. -/
def split (spans : List (Nat × Nat)) (line : Bytes) : List (Nat × Nat) :=
  close line.length ((separators 0 line).foldl cut (spans.take 0, 0))

theorem close_foldl_cut (done : List (Nat × Nat)) (start position : Nat) (rest : Bytes) :
    close (position + rest.length) ((separators position rest).foldl cut (done.reverse, start)) =
      spansFrom done start position rest := by
  induction rest generalizing done start position with
  | nil =>
    rw [separators, List.foldl_nil, close, spansFrom, List.length_nil, Nat.add_zero]
    split
    · rw [List.reverse_cons]
    · rfl
  | cons b rest ih =>
    rw [List.length_cons, separators, spansFrom, Nat.add_comm rest.length, ← Nat.add_assoc]
    split
    · rw [List.foldl_cons, cut, ← ih]
      split
      · rw [List.reverse_cons]
      · rfl
    · exact ih done start (position + 1)

theorem split_eq (spans : List (Nat × Nat)) (line : Bytes) :
    split spans line = fieldSpans line := by
  have h := close_foldl_cut [] 0 0 line
  rwa [Nat.zero_add] at h

/-! ## What splitting gives -/

/-- Whatever the list held before, a line is split into its maximal runs of bytes other than spaces
and tabs: the spans found are these runs, one after the other with a separator behind each but the
last, and a byte that is in none of them is a separator.  Fields that were joined by separators,
with more of them around, are found again. -/
theorem split_isRun :
    (∀ (old : List (Nat × Nat)) (line : Bytes),
      split old line = fieldSpans line ∧
      (∀ span, span ∈ fieldSpans line ↔ IsRun line span) ∧
      (fieldSpans line).Pairwise (fun s t ↦ s.2 < t.1 ∧ SeparatorAt line s.2) ∧
      ∀ i < line.length, SeparatorAt line i ∨ ∃ span ∈ fieldSpans line, span.1 ≤ i ∧ i < span.2) ∧
    (∀ (old : List (Nat × Nat)) (values : List Bytes) (text front behind : Bytes),
      Joined values text → (∀ value ∈ values, IsField value) → IsGap front → IsGap behind →
      fields ⟨front ++ (text ++ behind), split old (front ++ (text ++ behind))⟩ = .ok values) := by
  constructor
  · intro old line
    obtain ⟨found, h⟩ := exists_runs 0 line
    rw [h.fieldSpans_eq]
    refine ⟨?_, fun span ↦ h.mem_iff, ?_, fun i hlt ↦ ?_⟩
    · rw [split_eq, h.fieldSpans_eq]
    · refine h.ordered.imp_of_mem fun {s t} hs ht hlt ↦ ⟨hlt, ?_⟩
      rcases (h.mem_iff.1 hs).ends with hend | hsep
      · have hinside := (h.mem_iff.1 ht).inside
        have hnonempty := (h.mem_iff.1 ht).nonempty
        omega
      · exact hsep
    · by_cases hi : SeparatorAt line i
      · exact .inl hi
      · exact .inr (h.covered List.drop_zero (Nat.zero_le i) hlt hi)
  · intro old values text front behind hjoined hvalues hfront hbehind
    rw [split_eq]
    exact fields_of_joined hjoined hvalues hfront hbehind

/-- Fields with two separators between them and one more at either end of the line, and a list that
held something else. -/
theorem split_isRun_joined :
    let values : List Bytes := [[97], [98, 99]]
    let text : Bytes := [97, 0x20, 0x09, 98, 99]
    Joined values text ∧ (∀ value ∈ values, IsField value) ∧ IsGap [0x09] ∧ IsGap [0x20] ∧
      split [(7, 3)] ([0x09] ++ (text ++ [0x20])) = [(1, 2), (4, 6)] ∧
      fields ⟨[0x09] ++ (text ++ [0x20]), split [(7, 3)] ([0x09] ++ (text ++ [0x20]))⟩ =
        .ok values ∧
      IsRun ([0x09] ++ (text ++ [0x20])) (4, 6) := by
  intro values text
  have hgap : IsGap [0x20, 0x09] := List.forall_mem_cons.2 ⟨rfl, List.forall_mem_singleton.2 rfl⟩
  have hjoined : Joined values text :=
    .cons (List.cons_ne_nil 0x20 [0x09]) hgap (.single [98, 99])
  have hvalues : ∀ value ∈ values, IsField value :=
    List.forall_mem_cons.2 ⟨⟨List.cons_ne_nil _ _, List.forall_mem_singleton.2 rfl⟩,
      List.forall_mem_singleton.2
        ⟨List.cons_ne_nil _ _, List.forall_mem_cons.2 ⟨rfl, List.forall_mem_singleton.2 rfl⟩⟩⟩
  have hfront : IsGap [0x09] := List.forall_mem_singleton.2 rfl
  have hbehind : IsGap [0x20] := List.forall_mem_singleton.2 rfl
  refine ⟨hjoined, hvalues, hfront, hbehind, by decide,
    split_isRun.2 [(7, 3)] values text [0x09] [0x20] hjoined hvalues hfront hbehind, ?_⟩
  exact ((split_isRun.1 [(7, 3)] _).2.1 (4, 6)).1 (by decide)

end Rollup.Row
