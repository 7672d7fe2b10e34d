import Rollup.Proofs.Spec.Reading

/-!
# Specs are read as the grammar derives them

A list of tokens is read as a pipeline exactly if the grammar derives the pipeline from it
(`pipelineOf_eq_ok_iff`).

A stage ends in front of an arrow or at the end, and nowhere else (`Ends`).  So the reader
of a stage takes all the items that there are (`derives_of_stage`), and takes just the
tokens of a derived stage if it can end behind them (`stage_of_derives`).  Both hold for
items first, by induction on the list of tokens and on the derivation.
-/

namespace Rollup.Spec

open Outcome

variable {stop : Nat} {ts left : List Token} {kinds : List TokenKind}

/-! ## Stages -/

/-- What follows a stage: an arrow or the end. -/
def Ends (stop : Nat) (left : List Token) : Prop :=
  (front stop left).kind = .arrow ∨ (front stop left).kind = .stop

/-- Items that are read are derived from the tokens taken, and all that can be are. -/
theorem derives_of_items {is : List (Nat × Item)} (h : items stop ts = .ok (is, left)) :
    (∃ kinds, Takes ts left kinds ∧ DerivesItems kinds (is.map (·.2))) ∧ Ends stop left := by
  fun_induction items stop ts generalizing is left with
  | case1 =>
    cases h
    exact ⟨⟨[], takes_nil.2 rfl, .nil⟩, .inr rfl⟩
  | case2 =>
    cases h
    exact ⟨⟨[], takes_nil.2 rfl, .nil⟩, .inl rfl⟩
  | case3 =>
    cases h
    exact ⟨⟨[], takes_nil.2 rfl, .nil⟩, .inr rfl⟩
  | case4 => cases h
  | case5 name position rest i mid hi _ ih =>
    obtain ⟨⟨is, left⟩, his, heq⟩ := map_eq_ok.1 h
    cases heq
    obtain ⟨⟨kinds', htakes', hkinds'⟩, hends⟩ := ih his
    obtain ⟨kinds, htakes, hkinds⟩ := derives_of_item hi
    have hname : Takes (⟨.name name, position⟩ :: rest) rest [.name name] :=
      takes_cons.2 ⟨_, rest, rfl, rfl, takes_nil.2 rfl⟩
    exact ⟨⟨_, (hname.append htakes).append htakes', .cons hkinds hkinds'⟩, hends⟩
  | case6 => cases h

/-- Items that are derived are read if a stage can end behind them. -/
theorem items_of_derives {is : List Item} (h : DerivesItems kinds is) (htakes : Takes ts left kinds)
    (hends : Ends stop left) :
    ∃ found, items stop ts = .ok (found, left) ∧ found.map (·.2) = is := by
  induction h generalizing ts with
  | nil =>
    obtain rfl := takes_nil.1 htakes
    refine ⟨[], ?_, rfl⟩
    match ts, hends with
    | [], _ => rw [items]
    | ⟨kind, position⟩ :: rest, hends =>
      obtain rfl | rfl : kind = .arrow ∨ kind = .stop := hends
      · rw [items]
      · rw [items]
  | @cons kinds kinds' i is hi his ih =>
    obtain ⟨mid, hmid, hleft⟩ := takes_append.1 htakes
    obtain ⟨name, rest, rfl⟩ := hi.begins
    obtain ⟨⟨_, position⟩, ts', rfl, rfl, hrest⟩ := takes_cons.1 hmid
    have hnext : (front stop mid).kind ≠ .openParen := by
      cases his with
      | nil =>
        obtain rfl := takes_nil.1 hleft
        rcases hends with harrow | hstop
        · rw [harrow]
          exact TokenKind.noConfusion
        · rw [hstop]
          exact TokenKind.noConfusion
      | cons hi' his' =>
        obtain ⟨name', rest', rfl⟩ := hi'.begins
        rw [front_of_takes hleft]
        exact TokenKind.noConfusion
    obtain ⟨found, hfound, rfl⟩ := ih hleft
    refine ⟨(position, i) :: found, ?_, rfl⟩
    have hitem : item stop position name ts' = .ok (i, mid) := item_of_derives hi hrest hnext
    rw [items.eq_def]
    dsimp only
    split
    · rename_i refusal herror
      rw [hitem] at herror
      cases herror
    · rename_i i' mid' hok
      rw [hitem] at hok
      cases hok
      rw [hfound]
      rfl

theorem assemble_eq (is : List Item) :
    assemble is = ⟨is.filterMap Item.filter?,
      match is.filterMap Item.component? with
      | [] => .project (is.filterMap Item.field?)
      | components => .aggregate components⟩ :=
  rfl

theorem denotes_iff {is : List Item} {s : Stage} :
    Denotes is s ↔ s = assemble is ∧
      (is.filterMap Item.field? = [] ∨ is.filterMap Item.component? = []) := by
  rw [assemble_eq]
  constructor
  · rintro (hnone | ⟨hsome, hfields⟩)
    · rw [hnone]
      exact ⟨rfl, .inr rfl⟩
    · refine ⟨?_, .inl hfields⟩
      split
      · rename_i hnone
        exact absurd hnone hsome
      · rfl
  · rintro ⟨rfl, hunmixed⟩
    split
    · rename_i hnone
      exact .project hnone
    · rename_i hsome
      exact .aggregate hsome (hunmixed.resolve_right hsome)

theorem firstField?_eq_none_iff {is : List (Nat × Item)} :
    firstField? is = none ↔ (is.map (·.2)).filterMap Item.field? = [] := by
  rw [firstField?, List.findSome?_eq_none_iff, List.filterMap_map, List.filterMap_eq_nil_iff]
  refine forall₂_congr fun ⟨position, i⟩ _ ↦ ?_
  cases i <;> simp [Item.field?]

theorem firstComponent?_eq_none_iff {is : List (Nat × Item)} :
    firstComponent? is = none ↔ (is.map (·.2)).filterMap Item.component? = [] := by
  rw [firstComponent?, List.findSome?_eq_none_iff, List.filterMap_map, List.filterMap_eq_nil_iff]
  refine forall₂_congr fun ⟨position, i⟩ _ ↦ ?_
  cases i <;> simp [Item.component?]

theorem stage_eq_ok_iff {s : Stage} :
    stage stop ts = .ok (s, left) ↔
      ∃ is, items stop ts = .ok (is, left) ∧ Denotes (is.map (·.2)) s := by
  simp only [denotes_iff, ← firstField?_eq_none_iff, ← firstComponent?_eq_none_iff]
  rw [stage]
  cases items stop ts with
  | error refusal => simp
  | ok found =>
    obtain ⟨is, left'⟩ := found
    dsimp only
    split
    · rename_i hfield hcomponent
      simp [hfield, hcomponent]
    · rename_i hunmixed
      have hnone : firstField? is = none ∨ firstComponent? is = none := by
        cases hfield : firstField? is with
        | none => exact .inl rfl
        | some f =>
          cases hcomponent : firstComponent? is with
          | none => exact .inr rfl
          | some c => exact (hunmixed f c hfield hcomponent).elim
      constructor
      · intro h
        cases h
        exact ⟨is, rfl, rfl, hnone⟩
      · rintro ⟨_, heq, rfl, -⟩
        cases heq
        rfl

/-- A stage that is read is derived from the tokens taken, and all that can be are. -/
theorem derives_of_stage {s : Stage} (h : stage stop ts = .ok (s, left)) :
    (∃ kinds, Takes ts left kinds ∧ DerivesStage kinds s) ∧ Ends stop left := by
  obtain ⟨is, his, hdenotes⟩ := stage_eq_ok_iff.1 h
  obtain ⟨⟨kinds, htakes, hkinds⟩, hends⟩ := derives_of_items his
  exact ⟨⟨kinds, htakes, _, hkinds, hdenotes⟩, hends⟩

/-- A stage that is derived is read if it can end behind its tokens. -/
theorem stage_of_derives {s : Stage} (h : DerivesStage kinds s) (htakes : Takes ts left kinds)
    (hends : Ends stop left) : stage stop ts = .ok (s, left) := by
  obtain ⟨is, hkinds, hdenotes⟩ := h
  obtain ⟨found, hfound, rfl⟩ := items_of_derives hkinds htakes hends
  exact stage_eq_ok_iff.2 ⟨found, hfound, hdenotes⟩

/-! ## Pipelines -/

theorem DerivesBehind.ends {stages : List Stage} (h : DerivesBehind (left.map Token.kind) stages) :
    Ends stop left := by
  cases left with
  | nil => exact .inr rfl
  | cons t left =>
    generalize hkinds : (t :: left).map Token.kind = kinds at h
    cases h with
    | nil => exact absurd hkinds (List.cons_ne_nil _ _)
    | cons => exact .inl (List.cons.inj hkinds).1

/-- What is not empty begins with an item, and so neither an arrow nor the end is in front. -/
theorem DerivesStage.not_ends {s : Stage} (h : DerivesStage kinds s) (hne : kinds ≠ [])
    (htakes : Takes ts left kinds) : ¬ Ends stop ts := by
  obtain ⟨is, hkinds, -⟩ := h
  cases hkinds with
  | nil => exact absurd rfl hne
  | cons hi _ =>
    obtain ⟨name, rest, rfl⟩ := hi.begins
    rw [Ends, front_of_takes htakes]
    rintro (harrow | hstop)
    · cases harrow
    · cases hstop

theorem moreStages_eq_ok_iff {stages : List Stage} :
    moreStages stop ts = .ok stages ↔ DerivesBehind (ts.map Token.kind) stages := by
  constructor
  · intro h
    fun_induction moreStages stop ts generalizing stages with
    | case1 =>
      cases h
      exact .nil
    | case2 => cases h
    | case3 => cases h
    | case4 t rest ht next hnext s left hstage hle =>
      rename_i ih
      obtain ⟨stages, hstages, rfl⟩ := map_eq_ok.1 h
      obtain ⟨⟨kinds, htakes, hkinds⟩, hends⟩ := derives_of_stage hstage
      have hne : kinds ≠ [] := by
        rintro rfl
        obtain rfl := takes_nil.1 htakes
        rw [Bool.or_eq_true, decide_eq_true_eq, decide_eq_true_eq] at hnext
        exact hnext hends
      rw [List.map_cons, ht, htakes.map_kind]
      exact .cons hne hkinds (ih hstages)
    | case5 => cases h
  · intro h
    generalize hkinds : ts.map Token.kind = kinds at h
    induction h generalizing ts with
    | nil =>
      rw [List.map_eq_nil_iff.1 hkinds, moreStages]
    | @cons kinds kinds' s stages hne hs hbehind ih =>
      obtain ⟨t, rest, rfl, ht, hrest⟩ := List.map_eq_cons_iff.1 hkinds
      obtain ⟨left, htakes, hleft⟩ := exists_takes hrest
      have hstage : stage stop rest = .ok (s, left) :=
        stage_of_derives hs htakes (hleft ▸ hbehind).ends
      have hnext :
          ¬ ((front stop rest).kind = .arrow || (front stop rest).kind = .stop) = true := by
        rw [Bool.or_eq_true, decide_eq_true_eq, decide_eq_true_eq]
        exact hs.not_ends hne htakes
      rw [moreStages.eq_def]
      dsimp only
      rw [if_pos ht, if_neg hnext]
      split
      · rename_i refusal herror
        rw [hstage] at herror
        cases herror
      · rename_i s' left' hok
        rw [hstage] at hok
        cases hok
        rw [ih hleft]
        rfl

/-- Tokens are read as a pipeline exactly if it is derived from them. -/
theorem pipelineOf_eq_ok_iff {p : Pipeline} :
    pipelineOf stop ts = .ok p ↔ Derives (ts.map Token.kind) p := by
  rw [pipelineOf]
  constructor
  · intro h
    split at h
    · cases h
    · rename_i first left hstage
      obtain ⟨rest, hrest, rfl⟩ := map_eq_ok.1 h
      obtain ⟨⟨kinds, htakes, hkinds⟩, -⟩ := derives_of_stage hstage
      rw [htakes.map_kind]
      exact .intro hkinds (moreStages_eq_ok_iff.1 hrest)
  · intro h
    generalize hkinds : ts.map Token.kind = kinds at h
    obtain @⟨kinds, kinds', first, rest, hfirst, hbehind⟩ := h
    obtain ⟨left, htakes, hleft⟩ := exists_takes hkinds
    subst hleft
    rw [stage_of_derives hfirst htakes hbehind.ends]
    exact map_eq_ok.2 ⟨rest, moreStages_eq_ok_iff.2 hbehind, rfl⟩

/-! ## Specs -/

/-- Behind the tokens of a spec stands one that marks its end. -/
theorem tokens_eq_ok_iff {text : String} :
    tokens text = .ok ts ↔
      ∃ ts', tokensFrom 0 text.toList = .ok ts' ∧
        ts = ts' ++ [⟨.stop, byteLength text.toList⟩] := by
  rw [tokens, map_eq_ok]
  simp only [eq_comm]

/-- A text that consists of tokens is read as a pipeline exactly if the grammar derives
the pipeline from the tokens, the end left out. -/
theorem parse_eq_ok_iff_derives {text : String} (h : tokens text = .ok ts) (p : Pipeline) :
    parse text = .ok p ↔ Derives (ts.dropLast.map Token.kind) p := by
  obtain ⟨ts, hts, rfl⟩ := tokens_eq_ok_iff.1 h
  rw [parse, hts, List.dropLast_concat]
  exact pipelineOf_eq_ok_iff

/-- An empty first stage, and the word `count` with and without its argument. -/
theorem parse_eq_ok_iff_derives_count :
    tokens "=>count(distinct,_1)count" = .ok [⟨.arrow, 0⟩, ⟨.name "count", 2⟩, ⟨.openParen, 7⟩,
      ⟨.name "distinct", 8⟩, ⟨.comma, 16⟩, ⟨.name "_1", 17⟩, ⟨.closeParen, 19⟩, ⟨.name "count", 20⟩,
      ⟨.stop, 25⟩] ∧
    Derives [.arrow, .name "count", .openParen, .name "distinct", .comma, .name "_1", .closeParen,
      .name "count"] ⟨[⟨[], .project []⟩, ⟨[], .aggregate [.distinct 1, .count]⟩]⟩ := by
  have htokens : tokens "=>count(distinct,_1)count" = .ok [⟨.arrow, 0⟩, ⟨.name "count", 2⟩,
      ⟨.openParen, 7⟩, ⟨.name "distinct", 8⟩, ⟨.comma, 16⟩, ⟨.name "_1", 17⟩, ⟨.closeParen, 19⟩,
      ⟨.name "count", 20⟩, ⟨.stop, 25⟩] := by decide +kernel
  exact ⟨htokens, (parse_eq_ok_iff_derives htokens _).1 (by decide +kernel)⟩

end Rollup.Spec
