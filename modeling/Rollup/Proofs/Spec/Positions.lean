import Rollup.Proofs.Outcome
import Rollup.Spec.Parser

/-!
# Where a pipeline is refused

A reader that is given tokens at certain places refuses them at one of these places, or at that
of the end (`Within`).  If it succeeds, the tokens that it leaves are at such places, too, and
so are the items that it has read.  This holds for every reader, and hence for the reader of a
pipeline (`within_pipelineOf`).  So a spec that has tokens is refused at one of them
(`offends_of_parse`).
-/

namespace Rollup.Spec

variable {α β : Type} {P : Nat → Prop} {stop position : Nat} {ts : List Token}

/-- The result has this property, or the refusal is at one of these places. -/
def Within (P : Nat → Prop) (Q : α → Prop) : Except Refusal α → Prop
  | .ok a => Q a
  | .error refusal => P refusal.position

/-- All tokens are at these places. -/
def At (P : Nat → Prop) (ts : List Token) : Prop := ∀ t ∈ ts, P t.position

namespace Within

variable {Q : α → Prop} {R : β → Prop} {x : Except Refusal α}

theorem bind {g : α → Except Refusal β} (h : Within P Q x) (hnext : ∀ a, Q a → Within P R (g a)) :
    Within P R (x >>= g) := by
  cases x with
  | error refusal => exact h
  | ok a => exact hnext a h

theorem map {f : α → β} (h : Within P Q x) (hnext : ∀ a, Q a → R (f a)) : Within P R (x.map f) := by
  cases x with
  | error refusal => exact h
  | ok a => exact hnext a h

end Within

theorem At.tail (h : At P ts) : At P ts.tail := fun t ht ↦ h t (List.mem_of_mem_tail ht)

theorem At.front (h : At P ts) (hstop : P stop) : P (front stop ts).position := by
  cases ts with
  | nil => exact hstop
  | cons t ts => exact h t List.mem_cons_self

/-! ## Single tokens -/

theorem within_expect (hstop : P stop) (h : At P ts) (wanted : TokenKind) :
    Within P (At P) (expect stop wanted ts) := by
  rw [expect]
  split
  · exact h.tail
  · exact h.front hstop

theorem within_namedField (hposition : P position) (name : String) :
    Within P (fun _ ↦ True) (namedField position name) := by
  rw [namedField]
  split
  · exact trivial
  · exact hposition

theorem within_fieldOf {t : Token} (ht : P t.position) : Within P (fun _ ↦ True) (fieldOf t) := by
  rw [fieldOf]
  split
  · split
    · exact within_namedField ht _
    · exact ht
  · exact ht

theorem within_field (hstop : P stop) (h : At P ts) :
    Within P (fun read ↦ At P read.2) (field stop ts) :=
  (within_fieldOf (h.front hstop)).map fun _ _ ↦ h.tail

/-! ## Arguments -/

theorem within_oneField (hstop : P stop) (h : At P ts) :
    Within P (fun read ↦ At P read.2) (oneField stop ts) := by
  refine (within_expect hstop h _).bind fun ts h ↦ ?_
  refine (within_field hstop h).bind fun (n, ts) h ↦ ?_
  exact (within_expect hstop h _).bind fun ts h ↦ h

theorem within_moreFields (hstop : P stop) (h : At P ts) :
    Within P (fun read ↦ At P read.2) (moreFields stop ts) := by
  fun_induction moreFields stop ts with
  | case1 => exact h
  | case2 => exact hstop
  | case3 => exact h
  | case4 t next rest ht ih =>
    have hnext := List.forall_mem_cons.1 (List.forall_mem_cons.1 h).2
    exact (within_fieldOf hnext.1).bind fun n _ ↦ (ih hnext.2).bind fun _ h ↦ h
  | case5 => exact h

theorem within_someFields (hstop : P stop) (h : At P ts) :
    Within P (fun read ↦ At P read.2) (someFields stop ts) := by
  refine (within_expect hstop h _).bind fun ts h ↦ ?_
  refine (within_field hstop h).bind fun (n, ts) h ↦ ?_
  refine (within_moreFields hstop h).bind fun (ns, ts) h ↦ ?_
  exact (within_expect hstop h _).bind fun ts h ↦ h

theorem within_countTail (hstop : P stop) (h : At P ts) :
    Within P (fun read ↦ At P read.2) (countTail stop ts) := by
  rw [countTail]
  split
  · exact h
  · dsimp only
    split
    · exact h.tail.front hstop
    · refine (within_expect hstop h.tail.tail _).bind fun ts h ↦ ?_
      refine (within_field hstop h).bind ?_
      rintro ⟨n, ts⟩ h
      exact (within_expect hstop h _).bind fun ts h ↦ h

theorem within_filterPattern (hstop : P stop) (h : At P ts) (n : Nat) :
    Within P (fun read ↦ At P read.2) (filterPattern stop n ts) := by
  refine (within_expect hstop h _).bind fun ts h ↦ ?_
  split
  · exact h.tail
  · exact h.front hstop

theorem within_longFilter (hstop : P stop) (h : At P ts) :
    Within P (fun read ↦ At P read.2) (longFilter stop ts) := by
  refine (within_expect hstop h _).bind fun ts h ↦ ?_
  refine (within_field hstop h).bind fun (n, ts) h ↦ ?_
  refine (within_filterPattern hstop h n).bind fun (f, ts) h ↦ ?_
  exact (within_expect hstop h _).bind fun ts h ↦ h

/-! ## Items -/

theorem within_numbers (hposition : P position) (text : List Char) :
    Within P (fun _ ↦ True) (numbers position text) := by
  rw [numbers]
  split
  · exact hposition
  · induction pieces '_' text with
    | nil => exact trivial
    | cons piece rest ih =>
      rw [List.mapM_cons]
      refine Within.bind (Q := fun _ ↦ True) ?_ fun n _ ↦ ih.bind fun _ _ ↦ trivial
      split
      · exact trivial
      · exact hposition

theorem within_oneNumber (hposition : P position) (code : List Char) (ns : List Nat) :
    Within P (fun _ ↦ True) (oneNumber position code ns) := by
  rw [oneNumber.eq_def]
  split
  · exact trivial
  · exact hposition

theorem within_shortForm (hposition : P position) (name : String) :
    Within P (fun _ ↦ True) (shortForm position name) := by
  rw [shortForm]
  split
  · exact trivial
  split
  · exact trivial
  dsimp only
  split
  · exact hposition
  refine (within_numbers hposition _).bind fun ns _ ↦ ?_
  split
  · exact trivial
  split
  · exact trivial
  refine (within_oneNumber hposition _ ns).bind fun n _ ↦ ?_
  split
  · exact trivial
  split
  · exact trivial
  split <;> exact trivial

theorem within_item (hstop : P stop) (hposition : P position) (h : At P ts) (name : String) :
    Within P (fun read ↦ At P read.2) (item stop position name ts) := by
  rw [item]
  split
  · exact (within_oneField hstop h).map fun _ h ↦ h
  split
  · exact (within_oneField hstop h).map fun _ h ↦ h
  split
  · exact (within_someFields hstop h).map fun _ h ↦ h
  split
  · exact (within_someFields hstop h).map fun _ h ↦ h
  split
  · exact (within_countTail hstop h).map fun _ h ↦ h
  split
  · exact (within_longFilter hstop h).map fun _ h ↦ h
  split
  · exact (within_namedField hposition name).map fun _ _ ↦ h
  have hshort := within_shortForm hposition name
  split
  · rename_i refusal hrefusal
    rw [hrefusal] at hshort
    exact hshort
  · exact h
  · exact (within_filterPattern hstop h _).map fun _ h ↦ h

/-! ## Stages and pipelines -/

/-- The items are at these places, and so are the tokens left. -/
def ItemsAt (P : Nat → Prop) (read : List (Nat × Item) × List Token) : Prop :=
  (∀ i ∈ read.1, P i.1) ∧ At P read.2

theorem within_items (hstop : P stop) (h : At P ts) : Within P (ItemsAt P) (items stop ts) := by
  fun_induction items stop ts with
  | case1 => exact ⟨List.forall_mem_nil _, h⟩
  | case2 => exact ⟨List.forall_mem_nil _, h⟩
  | case3 => exact ⟨List.forall_mem_nil _, h⟩
  | case4 name position rest refusal hitem =>
    rw [At, List.forall_mem_cons] at h
    have hwithin := within_item hstop h.1 h.2 name
    rw [hitem] at hwithin
    exact hwithin
  | case5 name position rest i left hitem hle ih =>
    rw [At, List.forall_mem_cons] at h
    have hwithin := within_item hstop h.1 h.2 name
    rw [hitem] at hwithin
    exact (ih hwithin).map fun _ hread ↦ ⟨List.forall_mem_cons.2 ⟨h.1, hread.1⟩, hread.2⟩
  | case6 t rest => exact h t List.mem_cons_self

/-- Of two places the later one is one of them. -/
theorem max_mem {m n : Nat} (hm : P m) (hn : P n) : P (max m n) := by
  rcases Nat.le_total m n with h | h
  · rwa [Nat.max_eq_right h]
  · rwa [Nat.max_eq_left h]

theorem exists_of_firstField? {is : List (Nat × Item)} (h : firstField? is = some position) :
    ∃ i ∈ is, i.1 = position := by
  obtain ⟨⟨place, i⟩, hi, hplace⟩ := List.exists_of_findSome?_eq_some h
  cases i with
  | field => exact ⟨_, hi, Option.some.inj hplace⟩
  | filter => cases hplace
  | component => cases hplace

theorem exists_of_firstComponent? {is : List (Nat × Item)}
    (h : firstComponent? is = some position) : ∃ i ∈ is, i.1 = position := by
  obtain ⟨⟨place, i⟩, hi, hplace⟩ := List.exists_of_findSome?_eq_some h
  cases i with
  | component => exact ⟨_, hi, Option.some.inj hplace⟩
  | filter => cases hplace
  | field => cases hplace

theorem within_stage (hstop : P stop) (h : At P ts) :
    Within P (fun read ↦ At P read.2) (stage stop ts) := by
  have hitems := within_items hstop h
  rw [stage]
  split
  · rename_i refusal hrefusal
    rw [hrefusal] at hitems
    exact hitems
  · rename_i is left hread
    rw [hread] at hitems
    split
    · rename_i f c hf hc
      obtain ⟨i, hi, rfl⟩ := exists_of_firstField? hf
      obtain ⟨j, hj, rfl⟩ := exists_of_firstComponent? hc
      exact max_mem (hitems.1 i hi) (hitems.1 j hj)
    · exact hitems.2

theorem within_moreStages (hstop : P stop) (h : At P ts) :
    Within P (fun _ ↦ True) (moreStages stop ts) := by
  fun_induction moreStages stop ts with
  | case1 => exact trivial
  | case2 t rest ht next hnext =>
    rw [At, List.forall_mem_cons] at h
    exact max_mem (At.front h.2 hstop) h.1
  | case3 t rest ht next hnext refusal hstage =>
    have hwithin := within_stage hstop (List.forall_mem_cons.1 h).2
    rw [hstage] at hwithin
    exact hwithin
  | case4 t rest ht next hnext s left hstage hle ih =>
    have hwithin := within_stage hstop (List.forall_mem_cons.1 h).2
    rw [hstage] at hwithin
    exact (ih hwithin).map fun _ _ ↦ trivial
  | case5 t rest => exact h t List.mem_cons_self

theorem within_pipelineOf (hstop : P stop) (h : At P ts) :
    Within P (fun _ ↦ True) (pipelineOf stop ts) := by
  have hstage := within_stage hstop h
  rw [pipelineOf]
  split
  · rename_i refusal hrefusal
    rw [hrefusal] at hstage
    exact hstage
  · rename_i first left hfirst
    rw [hfirst] at hstage
    exact (within_moreStages hstop hstage).map fun _ _ ↦ trivial

/-! ## Specs -/

/-- The reader of tokens refuses the text in this way, or one of the tokens, which may be that of
the end, is at the place of the refusal. -/
def Offends (text : String) (refusal : Refusal) : Prop :=
  tokens text = .error refusal ∨
    ∃ ts, tokens text = .ok ts ∧ ∃ t ∈ ts, t.position = refusal.position

theorem offends_of_parse {text : String} {refusal : Refusal} (h : parse text = .error refusal) :
    Offends text refusal := by
  rw [Offends, tokens]
  rw [parse] at h
  cases htokens : tokensFrom 0 text.toList with
  | error refusal' =>
    rw [htokens] at h
    cases h
    exact .inl rfl
  | ok ts =>
    rw [htokens] at h
    have hread : pipelineOf (byteLength text.toList) ts = .error refusal := h
    have hstop : ∃ t ∈ ts ++ [⟨.stop, byteLength text.toList⟩],
        t.position = byteLength text.toList := ⟨_, List.mem_concat_self, rfl⟩
    have hat : At (fun position ↦ ∃ t ∈ ts ++ [⟨.stop, byteLength text.toList⟩],
        t.position = position) ts := fun t ht ↦ ⟨t, List.mem_append_left _ ht, rfl⟩
    have hwithin := within_pipelineOf hstop hat
    rw [hread] at hwithin
    exact .inr ⟨_, rfl, hwithin⟩

end Rollup.Spec
