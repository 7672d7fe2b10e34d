import Rollup.Proofs.Outcome
import Rollup.Proofs.Spec.Grammar

/-!
# Items are read as the grammar derives them

Each reader takes tokens off the front of a list, and `Takes` says of which kinds they
are.  The two directions differ.

* An item that is read is derived from the tokens that were taken (`derives_of_item`).
* An item that is derived from the tokens in front is read, if what follows cannot be
  part of it (`item_of_derives`): the word `count` must not be followed by a parenthesis.

That a name is read as the short form it spells needs no such condition
(`shortForm_eq_ok_iff`), since a name is a single token; but a short form has to be told
from the words that begin long forms, and these have no digits
(`notMem_words_of_digit`).
-/

namespace Rollup.Spec

open Outcome

/-! ## Numbers -/

theorem number?_eq_some_iff {digits : List Char} {n : Nat} :
    number? digits = some n ↔ Numeral digits n := by
  rw [number?]
  constructor
  · intro h
    split at h
    · cases h
    · rename_i hdigits
      rw [Bool.or_eq_true, not_or, List.isEmpty_iff, Bool.not_eq_true', Bool.not_eq_false,
        List.all_eq_true] at hdigits
      obtain ⟨hlt, hn⟩ := Option.ite_none_right_eq_some.1 h
      rw [Option.some.injEq] at hn
      subst hn
      exact ⟨hdigits.1, hdigits.2, rfl, hlt⟩
  · rintro ⟨hne, hdigit, rfl, hlt⟩
    have hdigits : ¬ (digits.isEmpty || !digits.all Char.isDigit) = true := by
      rw [Bool.or_eq_true, not_or, List.isEmpty_iff, Bool.not_eq_true', Bool.not_eq_false,
        List.all_eq_true]
      exact ⟨hne, hdigit⟩
    rw [if_neg hdigits]
    exact if_pos hlt

theorem pieces_eq_splitOn (separator : Char) (text : List Char) :
    pieces separator text = text.splitOn separator := by
  induction text with
  | nil => rfl
  | cons c rest ih =>
    have hne : rest.splitOn separator ≠ [] := List.splitOnP_ne_nil _ _
    obtain ⟨piece, more, hrest⟩ := List.exists_cons_of_ne_nil hne
    rw [List.splitOn_cons_eq_if_modifyHead, pieces, ih, hrest]
    simp only [beq_iff_eq]
    split <;> rfl

/-- A number has no underscores. -/
theorem Numeral.underscore_notMem {digits : List Char} {n : Nat} (h : Numeral digits n) :
    '_' ∉ digits := by
  intro hmem
  exact absurd (h.digit '_' hmem) (by decide)

/-- At least one number, with underscores between them. -/
def Numerals (text : List Char) (ns : List Nat) : Prop :=
  ∃ parts, text = ['_'].intercalate parts ∧ parts ≠ [] ∧ List.Forall₂ Numeral parts ns

theorem numerals_singleton {text : List Char} {n : Nat} : Numerals text [n] ↔ Numeral text n := by
  constructor
  · rintro ⟨parts, rfl, -, hparts⟩
    obtain ⟨digits, rest, hdigits, hrest, rfl⟩ := List.forall₂_cons_right_iff.1 hparts
    obtain rfl := List.forall₂_nil_right_iff.1 hrest
    rwa [List.intercalate_singleton]
  · intro h
    exact ⟨[text], List.intercalate_singleton.symm, List.cons_ne_nil _ _, .cons h .nil⟩

theorem numbers_eq_ok_iff {position : Nat} {text : List Char} {ns : List Nat} :
    numbers position text = .ok ns ↔ Numerals text ns := by
  constructor
  · intro h
    rw [numbers] at h
    split at h
    · cases h
    · rw [mapM_eq_ok_iff, pieces_eq_splitOn] at h
      refine ⟨_, (List.intercalate_splitOn '_').symm, List.splitOnP_ne_nil _ _, h.imp ?_⟩
      intro digits n hn
      split at hn
      · rename_i hdigits
        cases hn
        exact number?_eq_some_iff.1 hdigits
      · cases hn
  · rintro ⟨parts, rfl, hne, hparts⟩
    have hfree : ∀ part ∈ parts, '_' ∉ part := by
      clear hne
      induction hparts with
      | nil => exact List.forall_mem_nil _
      | cons hdigits _ ih => exact List.forall_mem_cons.2 ⟨hdigits.underscore_notMem, ih⟩
    have htext : ¬ (['_'].intercalate parts).isEmpty = true := by
      cases hparts with
      | nil => exact absurd rfl hne
      | cons hdigits _ =>
        obtain ⟨c, digits, rfl⟩ := List.exists_cons_of_ne_nil hdigits.ne_nil
        rw [List.intercalate_cons_cons_left, List.isEmpty_cons]
        exact Bool.false_ne_true
    rw [numbers, if_neg htext, mapM_eq_ok_iff, pieces_eq_splitOn,
      List.splitOn_intercalate '_' hfree hne]
    refine hparts.imp fun digits n hdigits ↦ ?_
    rw [number?_eq_some_iff.2 hdigits]

/-! ## Tokens in front -/

/-- The tokens in front of `left` are of these kinds. -/
def Takes (ts left : List Token) (kinds : List TokenKind) : Prop :=
  ∃ used, ts = used ++ left ∧ used.map Token.kind = kinds

variable {stop position n : Nat} {name : String} {t : Token} {ts left : List Token}
  {kinds kinds' : List TokenKind} {kind : TokenKind}

theorem takes_nil : Takes ts left [] ↔ ts = left := by
  constructor
  · rintro ⟨used, rfl, hused⟩
    rw [List.map_eq_nil_iff.1 hused, List.nil_append]
  · rintro rfl
    exact ⟨[], rfl, rfl⟩

theorem takes_cons :
    Takes ts left (kind :: kinds) ↔
      ∃ t ts', ts = t :: ts' ∧ t.kind = kind ∧ Takes ts' left kinds := by
  constructor
  · rintro ⟨used, rfl, hused⟩
    obtain ⟨t, used, rfl, hkind, hkinds⟩ := List.map_eq_cons_iff.1 hused
    exact ⟨t, used ++ left, rfl, hkind, used, rfl, hkinds⟩
  · rintro ⟨t, _, rfl, rfl, used, rfl, rfl⟩
    exact ⟨t :: used, rfl, rfl⟩

theorem takes_append :
    Takes ts left (kinds ++ kinds') ↔ ∃ ts', Takes ts ts' kinds ∧ Takes ts' left kinds' := by
  induction kinds generalizing ts with
  | nil => simp [takes_nil]
  | cons kind kinds ih =>
    simp only [List.cons_append, takes_cons, ih]
    constructor
    · rintro ⟨t, ts', rfl, rfl, mid, hmid, hleft⟩
      exact ⟨mid, ⟨t, ts', rfl, rfl, hmid⟩, hleft⟩
    · rintro ⟨mid, ⟨t, ts', rfl, rfl, hmid⟩, hleft⟩
      exact ⟨t, ts', rfl, rfl, mid, hmid, hleft⟩

theorem takes_first :
    Takes ts left (kind :: kinds) ↔ ∃ ts', Takes ts ts' [kind] ∧ Takes ts' left kinds :=
  show Takes ts left ([kind] ++ kinds) ↔ _ from takes_append

theorem Takes.append (h : Takes ts left kinds) {left' : List Token} (h' : Takes left left' kinds') :
    Takes ts left' (kinds ++ kinds') :=
  takes_append.2 ⟨left, h, h'⟩

theorem Takes.map_kind (h : Takes ts left kinds) :
    ts.map Token.kind = kinds ++ left.map Token.kind := by
  obtain ⟨used, rfl, rfl⟩ := h
  exact List.map_append

theorem exists_takes (h : ts.map Token.kind = kinds ++ kinds') :
    ∃ left, Takes ts left kinds ∧ left.map Token.kind = kinds' := by
  obtain ⟨used, left, rfl, hused, hleft⟩ := List.map_eq_append_iff.1 h
  exact ⟨left, ⟨used, rfl, hused⟩, hleft⟩

/-! ## Single tokens -/

theorem front_of_takes (h : Takes ts left (kind :: kinds)) : (front stop ts).kind = kind := by
  obtain ⟨t, _, rfl, ht, -⟩ := takes_cons.1 h
  exact ht

theorem front_kind_iff (hkind : kind ≠ .stop) :
    (front stop ts).kind = kind ↔ Takes ts ts.tail [kind] := by
  refine ⟨fun h ↦ ?_, front_of_takes⟩
  cases ts with
  | nil => exact absurd h.symm hkind
  | cons t ts => exact takes_cons.2 ⟨t, ts, rfl, h, takes_nil.2 rfl⟩

theorem expect_eq_ok_iff (hkind : kind ≠ .stop) :
    expect stop kind ts = .ok left ↔ Takes ts left [kind] := by
  simp only [takes_cons, takes_nil]
  cases ts with
  | nil => simp [expect, front, hkind.symm]
  | cons t ts =>
    by_cases h : t.kind = kind
    · simp [expect, front, h, eq_comm]
    · simp [expect, front, h]

theorem fieldName_iff :
    FieldName name n ↔ isFieldName name = true ∧ number? name.toList.tail = some n := by
  simp only [FieldName, isFieldName, number?_eq_some_iff, decide_eq_true_eq]
  cases name.toList with
  | nil => simp
  | cons c digits => simp

theorem namedField_eq_ok_iff :
    namedField position name = .ok n ↔ number? name.toList.tail = some n := by
  rw [namedField]
  cases number? name.toList.tail <;> simp

theorem fieldOf_eq_ok_iff : fieldOf t = .ok n ↔ ∃ name, t.kind = .name name ∧ FieldName name n := by
  simp only [fieldName_iff]
  rw [fieldOf]
  cases t.kind with
  | name name =>
    by_cases h : isFieldName name = true <;> simp [h, namedField_eq_ok_iff]
  | _ => simp

theorem field_eq_ok_iff :
    field stop ts = .ok (n, left) ↔ ∃ name, FieldName name n ∧ Takes ts left [.name name] := by
  simp only [takes_cons, takes_nil]
  cases ts with
  | nil => simp [field, front, fieldOf, map_eq_ok]
  | cons t ts =>
    simp only [field, front, map_eq_ok, List.headD_cons, List.tail_cons, fieldOf_eq_ok_iff,
      Prod.mk.injEq, List.cons.injEq]
    constructor
    · rintro ⟨_, ⟨name, hkind, hname⟩, rfl, rfl⟩
      exact ⟨name, hname, t, ts, ⟨rfl, rfl⟩, hkind, rfl⟩
    · rintro ⟨name, hname, t, _, ⟨rfl, rfl⟩, hkind, rfl⟩
      exact ⟨n, ⟨name, hkind, hname⟩, rfl, rfl⟩

/-! ## Arguments -/

theorem oneField_eq_ok_iff :
    oneField stop ts = .ok (n, left) ↔
      ∃ name, FieldName name n ∧ Takes ts left [.openParen, .name name, .closeParen] := by
  simp only [oneField, bind_eq_ok, pure_eq_ok, Prod.exists, Prod.mk.injEq,
    expect_eq_ok_iff, ne_eq, reduceCtorEq, not_false_eq_true, field_eq_ok_iff]
  constructor
  · rintro ⟨ts₁, hopen, m, ts₂, ⟨name, hname, hfield⟩, ts₃, hclose, rfl, rfl⟩
    exact ⟨name, hname, (hopen.append hfield).append hclose⟩
  · rintro ⟨name, hname, htakes⟩
    obtain ⟨ts₁, hopen, htakes⟩ := takes_first.1 htakes
    obtain ⟨ts₂, hfield, hclose⟩ := takes_first.1 htakes
    exact ⟨ts₁, hopen, n, ts₂, ⟨name, hname, hfield⟩, left, hclose, rfl, rfl⟩

/-- What `moreFields` takes is derived, and it takes all that is. -/
theorem moreFields_eq_ok_iff {ns : List Nat} (hleft : (front stop left).kind ≠ .comma) :
    moreFields stop ts = .ok (ns, left) ↔ ∃ kinds, DerivesMore kinds ns ∧ Takes ts left kinds := by
  constructor
  · intro h
    clear hleft
    fun_induction moreFields stop ts generalizing ns with
    | case1 =>
      cases h
      exact ⟨[], .nil, takes_nil.2 rfl⟩
    | case2 => cases h
    | case3 =>
      cases h
      exact ⟨[], .nil, takes_nil.2 rfl⟩
    | case4 t next rest ht ih =>
      simp only [bind_eq_ok, pure_eq_ok, Prod.exists, Prod.mk.injEq] at h
      obtain ⟨n, hn, ns, ts, hrest, rfl, rfl⟩ := h
      obtain ⟨kinds, hkinds, htakes⟩ := ih hrest
      obtain ⟨name, hname, hfield⟩ := fieldOf_eq_ok_iff.1 hn
      exact ⟨_, .cons hfield hkinds,
        takes_cons.2 ⟨t, _, rfl, ht, takes_cons.2 ⟨next, rest, rfl, hname, htakes⟩⟩⟩
    | case5 =>
      cases h
      exact ⟨[], .nil, takes_nil.2 rfl⟩
  · rintro ⟨kinds, hkinds, htakes⟩
    induction hkinds generalizing ts with
    | nil =>
      obtain rfl := takes_nil.1 htakes
      cases ts with
      | nil => rfl
      | cons t ts =>
        cases ts with
        | nil => exact if_neg hleft
        | cons next rest => exact if_neg hleft
    | cons hname hkinds ih =>
      obtain ⟨t, _, rfl, ht, htakes⟩ := takes_cons.1 htakes
      obtain ⟨next, rest, rfl, hnext, htakes⟩ := takes_cons.1 htakes
      rw [moreFields, if_pos ht, fieldOf_eq_ok_iff.2 ⟨_, hnext, hname⟩, ok_bind, ih htakes]
      rfl

theorem someFields_eq_ok_iff {ns : List Nat} :
    someFields stop ts = .ok (ns, left) ↔
      ∃ name n kinds ms, FieldName name n ∧ DerivesMore kinds ms ∧ ns = n :: ms ∧
        Takes ts left (.openParen :: .name name :: (kinds ++ [.closeParen])) := by
  simp only [someFields, bind_eq_ok, pure_eq_ok, Prod.exists, Prod.mk.injEq,
    expect_eq_ok_iff, ne_eq, reduceCtorEq, not_false_eq_true, field_eq_ok_iff]
  constructor
  · rintro ⟨ts₁, hopen, n, ts₂, ⟨name, hname, hfield⟩, ms, ts₃, hmore, ts₄, hclose, rfl, rfl⟩
    have hnext : (front stop ts₃).kind ≠ .comma := by
      rw [front_of_takes hclose]
      exact TokenKind.noConfusion
    obtain ⟨kinds, hkinds, htakes⟩ := (moreFields_eq_ok_iff hnext).1 hmore
    exact ⟨name, n, kinds, ms, hname, hkinds, rfl,
      (hopen.append hfield).append (htakes.append hclose)⟩
  · rintro ⟨name, n, kinds, ms, hname, hkinds, rfl, htakes⟩
    obtain ⟨ts₁, hopen, htakes⟩ := takes_first.1 htakes
    obtain ⟨ts₂, hfield, htakes⟩ := takes_first.1 htakes
    obtain ⟨ts₃, hmore, hclose⟩ := takes_append.1 htakes
    have hnext : (front stop ts₃).kind ≠ .comma := by
      rw [front_of_takes hclose]
      exact TokenKind.noConfusion
    exact ⟨ts₁, hopen, n, ts₂, ⟨name, hname, hfield⟩, ms, ts₃,
      (moreFields_eq_ok_iff hnext).2 ⟨kinds, hkinds, hmore⟩, left, hclose, rfl, rfl⟩

theorem filterPattern_eq_ok_iff {f : Filter} :
    filterPattern stop n ts = .ok (f, left) ↔
      ∃ text, f = ⟨n, text⟩ ∧ Takes ts left [.tilde, .pattern text] := by
  simp only [filterPattern, bind_eq_ok, expect_eq_ok_iff, ne_eq, reduceCtorEq, not_false_eq_true]
  constructor
  · rintro ⟨ts₁, htilde, h⟩
    split at h
    · rename_i text htext
      cases h
      exact ⟨text, rfl, htilde.append ((front_kind_iff TokenKind.noConfusion).1 htext)⟩
    · cases h
  · rintro ⟨text, rfl, htakes⟩
    obtain ⟨ts₁, htilde, htakes⟩ := takes_first.1 htakes
    obtain ⟨t, _, rfl, ht, htakes⟩ := takes_cons.1 htakes
    obtain rfl := takes_nil.1 htakes
    refine ⟨_, htilde, ?_⟩
    simp [front, ht]

theorem longFilter_eq_ok_iff {f : Filter} :
    longFilter stop ts = .ok (f, left) ↔
      ∃ name n text, FieldName name n ∧ f = ⟨n, text⟩ ∧
        Takes ts left [.openParen, .name name, .tilde, .pattern text, .closeParen] := by
  simp only [longFilter, bind_eq_ok, pure_eq_ok, Prod.exists, Prod.mk.injEq,
    expect_eq_ok_iff, ne_eq, reduceCtorEq, not_false_eq_true, field_eq_ok_iff,
    filterPattern_eq_ok_iff]
  constructor
  · rintro ⟨ts₁, hopen, n, ts₂, ⟨name, hname, hfield⟩, f, ts₃, ⟨text, rfl, hpattern⟩, ts₄, hclose,
      rfl, rfl⟩
    exact ⟨name, n, text, hname, rfl, (hopen.append hfield).append (hpattern.append hclose)⟩
  · rintro ⟨name, n, text, hname, rfl, htakes⟩
    obtain ⟨ts₁, hopen, htakes⟩ := takes_first.1 htakes
    obtain ⟨ts₂, hfield, htakes⟩ := takes_first.1 htakes
    obtain ⟨ts₃, htilde, htakes⟩ := takes_first.1 htakes
    obtain ⟨ts₄, hpattern, hclose⟩ := takes_first.1 htakes
    exact ⟨ts₁, hopen, n, ts₂, ⟨name, hname, hfield⟩, _, ts₄,
      ⟨text, rfl, htilde.append hpattern⟩, left, hclose, rfl, rfl⟩

/-- The word `count` stands alone exactly if no parenthesis follows it. -/
theorem countTail_eq_ok_iff {c : Component} :
    countTail stop ts = .ok (c, left) ↔
      ((front stop ts).kind ≠ .openParen ∧ c = .count ∧ ts = left) ∨
        ∃ name n, FieldName name n ∧ c = .distinct n ∧
          Takes ts left [.openParen, .name "distinct", .comma, .name name, .closeParen] := by
  rw [countTail]
  constructor
  · intro h
    split at h
    · rename_i hopen
      cases h
      exact .inl ⟨hopen, rfl, rfl⟩
    · rename_i hopen
      rw [not_not] at hopen
      dsimp only at h
      split at h
      · cases h
      · rename_i hword
        rw [not_not] at hword
        simp only [bind_eq_ok, pure_eq_ok, Prod.exists, Prod.mk.injEq, expect_eq_ok_iff, ne_eq,
          reduceCtorEq, not_false_eq_true, field_eq_ok_iff] at h
        obtain ⟨ts₃, hcomma, n, ts₄, ⟨name, hname, hfield⟩, ts₅, hclose, rfl, rfl⟩ := h
        have hfirst := (front_kind_iff TokenKind.noConfusion).1 hopen
        have hsecond := (front_kind_iff TokenKind.noConfusion).1 hword
        exact .inr ⟨name, n, hname, rfl,
          (hfirst.append hsecond).append ((hcomma.append hfield).append hclose)⟩
  · rintro (⟨hopen, rfl, rfl⟩ | ⟨name, n, hname, rfl, htakes⟩)
    · exact if_pos hopen
    · obtain ⟨topen, _, rfl, hopen, htakes⟩ := takes_cons.1 htakes
      obtain ⟨tword, ts₂, rfl, hword, htakes⟩ := takes_cons.1 htakes
      obtain ⟨ts₃, hcomma, htakes⟩ := takes_first.1 htakes
      obtain ⟨ts₄, hfield, hclose⟩ := takes_first.1 htakes
      have hfirst : ¬ (front stop (topen :: tword :: ts₂)).kind ≠ .openParen := not_not.2 hopen
      have hsecond : ¬ (front stop (tword :: ts₂)).kind ≠ .name "distinct" := not_not.2 hword
      rw [if_neg hfirst, List.tail_cons]
      dsimp only
      rw [if_neg hsecond, List.tail_cons,
        (expect_eq_ok_iff TokenKind.noConfusion).2 hcomma, ok_bind,
        field_eq_ok_iff.2 ⟨name, hname, hfield⟩, ok_bind,
        (expect_eq_ok_iff TokenKind.noConfusion).2 hclose, ok_bind]
      rfl

/-! ## Short forms -/

theorem shortCode_append (name : List Char) : (shortCode name).1 ++ (shortCode name).2 = name := by
  rw [shortCode]
  split
  · rename_i hprefix
    obtain ⟨digits, rfl⟩ := List.isPrefixOf_iff_prefix.1 hprefix
    rfl
  · exact List.take_append_drop 1 name

/-- A number begins with a digit, and so do several. -/
theorem Numerals.begins {text : List Char} {ns : List Nat} (h : Numerals text ns) :
    ∃ d rest, text = d :: rest ∧ d.isDigit = true := by
  obtain ⟨parts, rfl, hne, hparts⟩ := h
  cases hparts with
  | nil => exact absurd rfl hne
  | cons hdigits _ =>
    obtain ⟨d, digits, rfl⟩ := List.exists_cons_of_ne_nil hdigits.ne_nil
    exact ⟨d, _, List.intercalate_cons_cons_left, hdigits.digit d List.mem_cons_self⟩

theorem oneNumber_eq_ok_iff {code : List Char} {ns : List Nat} :
    oneNumber position code ns = .ok n ↔ ns = [n] := by
  fun_cases oneNumber position code ns
  · simp [eq_comm]
  · rename_i hmany
    simpa using hmany n

/-- What the letters and numbers of a short form stand for. -/
inductive Coded : List Char → List Nat → Short → Prop
  | key (n : Nat) : Coded ['k'] [n] (.component (.key n))
  | sum (n : Nat) : Coded ['s'] [n] (.component (.sum n))
  | extremum (goal : Goal) (ns : List Nat) : Coded [letter goal] ns (.component (.extremum goal ns))
  | distinct (n : Nat) : Coded ['c', 'd'] [n] (.component (.distinct n))
  | filter (n : Nat) : Coded ['f'] [n] (.filterOn n)

variable {code digits : List Char} {ns : List Nat} {short : Short}

theorem shortCode_of_coded (h : Coded code ns short) :
    shortCode (code ++ digits) = (code, digits) := by
  cases h with
  | extremum goal => cases goal <;> rfl
  | _ => rfl

/-- A code that takes one number has been given one, and stands for what is made of it. -/
theorem coded_of_oneNumber {make : Nat → Short} (hcoded : ∀ n, Coded code [n] (make n))
    (h : (oneNumber position code ns >>= fun n ↦ .ok (make n)) = .ok short) :
    Coded code ns short := by
  obtain ⟨n, hn, h⟩ := bind_eq_ok.1 h
  cases oneNumber_eq_ok_iff.1 hn
  cases h
  exact hcoded n

theorem any_digit_of_numerals (hname : name.toList = code ++ digits) (h : Numerals digits ns) :
    name.toList.any Char.isDigit = true := by
  obtain ⟨d, rest, rfl, hd⟩ := h.begins
  rw [hname, List.any_append, List.any_cons, hd, Bool.true_or, Bool.or_true]

/-- The name of a short form, by what it stands for. -/
def ShortSpells (name : String) : Short → Prop
  | .component c => ShortName name c
  | .filterOn n => ShortFilterName name n

/-- Short forms are one of the names `c` and `f`, or letters and numbers. -/
theorem shortSpells_iff :
    ShortSpells name short ↔
      (name = "c" ∧ short = .component .count) ∨ (name = "f" ∧ short = .filterOn 0) ∨
        ∃ code digits ns,
          name.toList = code ++ digits ∧ Numerals digits ns ∧ Coded code ns short := by
  constructor
  · intro h
    cases short with
    | component c =>
      cases h with
      | count => exact .inl ⟨rfl, rfl⟩
      | key hname hdigits =>
        exact .inr (.inr ⟨_, _, _, hname, numerals_singleton.2 hdigits, .key _⟩)
      | sum hname hdigits =>
        exact .inr (.inr ⟨_, _, _, hname, numerals_singleton.2 hdigits, .sum _⟩)
      | distinct hname hdigits =>
        exact .inr (.inr ⟨_, _, _, hname, numerals_singleton.2 hdigits, .distinct _⟩)
      | extremum hname hne hparts =>
        exact .inr (.inr ⟨_, _, _, hname, ⟨_, rfl, hne, hparts⟩, .extremum _ _⟩)
    | filterOn n =>
      cases h with
      | first => exact .inr (.inl ⟨rfl, rfl⟩)
      | field hname hdigits =>
        exact .inr (.inr ⟨_, _, _, hname, numerals_singleton.2 hdigits, .filter _⟩)
  · rintro (⟨rfl, rfl⟩ | ⟨rfl, rfl⟩ | ⟨code, digits, ns, hname, hns, hcoded⟩)
    · exact ShortName.count
    · exact ShortFilterName.first
    · cases hcoded with
      | key n => exact ShortName.key hname (numerals_singleton.1 hns)
      | sum n => exact ShortName.sum hname (numerals_singleton.1 hns)
      | extremum goal ns =>
        obtain ⟨parts, rfl, hne, hparts⟩ := hns
        exact ShortName.extremum hname hne hparts
      | distinct n => exact ShortName.distinct hname (numerals_singleton.1 hns)
      | filter n => exact ShortFilterName.field hname (numerals_singleton.1 hns)

theorem shortForm_eq_ok_iff : shortForm position name = .ok short ↔ ShortSpells name short := by
  rw [shortForm, shortSpells_iff]
  constructor
  · intro h
    split at h
    · rename_i hc
      cases h
      exact .inl ⟨hc, rfl⟩
    split at h
    · rename_i hf
      cases h
      exact .inr (.inl ⟨hf, rfl⟩)
    have hname := shortCode_append name.toList
    generalize shortCode name.toList = parts at h hname
    obtain ⟨code, digits⟩ := parts
    dsimp only at h hname
    split at h
    · cases h
    · rename_i hmem
      obtain ⟨ns, hns, h⟩ := bind_eq_ok.1 h
      refine .inr (.inr ⟨code, digits, ns, hname.symm, numbers_eq_ok_iff.1 hns, ?_⟩)
      clear hns hname
      simp only [not_not, List.mem_cons, List.not_mem_nil, or_false] at hmem
      rcases hmem with rfl | rfl | rfl | rfl | rfl | rfl
      · exact coded_of_oneNumber .key h
      · exact coded_of_oneNumber .sum h
      · cases h
        exact .extremum .lowest ns
      · cases h
        exact .extremum .highest ns
      · exact coded_of_oneNumber .distinct h
      · exact coded_of_oneNumber .filter h
  · rintro (⟨rfl, rfl⟩ | ⟨rfl, rfl⟩ | ⟨code, digits, ns, hname, hns, hcoded⟩)
    · rfl
    · rfl
    · have hdigit := any_digit_of_numerals hname hns
      have hc : name ≠ "c" := by
        rintro rfl
        exact absurd hdigit (by decide)
      have hf : name ≠ "f" := by
        rintro rfl
        exact absurd hdigit (by decide)
      rw [if_neg hc, if_neg hf, hname, shortCode_of_coded hcoded]
      dsimp only
      rw [numbers_eq_ok_iff.2 hns, ok_bind]
      cases hcoded with
      | extremum goal => cases goal <;> rfl
      | _ => rfl

/-! ## Items -/

/-- The words that begin a long form. -/
def words : List String := ["key", "sum", "min", "max", "count", "filter"]

theorem notMem_words_of_digit (h : name.toList.any Char.isDigit = true) : name ∉ words := by
  have hwords : ∀ word ∈ words, word.toList.any Char.isDigit = false := by decide
  intro hmem
  rw [hwords name hmem] at h
  exact Bool.false_ne_true h

theorem notMem_words_of_shortSpells (h : ShortSpells name short) : name ∉ words := by
  obtain ⟨rfl, -⟩ | ⟨rfl, -⟩ | ⟨code, digits, ns, hname, hns, -⟩ :=
    shortSpells_iff.1 h
  · decide
  · decide
  · exact notMem_words_of_digit (any_digit_of_numerals hname hns)

theorem notMem_words_of_fieldName (h : FieldName name n) : name ∉ words := by
  obtain ⟨digits, hname, hdigits⟩ := h
  have hunderscore : name.toList = ['_'] ++ digits := hname
  exact notMem_words_of_digit (any_digit_of_numerals hunderscore (numerals_singleton.2 hdigits))

theorem not_isFieldName_of_shortSpells (h : ShortSpells name short) : isFieldName name = false := by
  rw [isFieldName, decide_eq_false_iff_not]
  obtain ⟨rfl, -⟩ | ⟨rfl, -⟩ | ⟨code, digits, ns, hname, -, hcoded⟩ := shortSpells_iff.1 h
  · decide
  · decide
  · rw [hname]
    cases hcoded with
    | extremum goal => cases goal <;> exact fun h ↦ absurd (Option.some.inj h) (by decide)
    | _ => exact fun h ↦ absurd (Option.some.inj h) (by decide)

theorem item_of_notMem_words (h : name ∉ words) :
    item stop position name ts =
      if isFieldName name then (namedField position name).map fun n ↦ (.field n, ts)
      else match shortForm position name with
        | .error refusal => .error refusal
        | .ok (.component c) => .ok (.component c, ts)
        | .ok (.filterOn n) => (filterPattern stop n ts).map fun (f, ts) ↦ (.filter f, ts) := by
  simp only [words, List.mem_cons, List.not_mem_nil, or_false, not_or] at h
  obtain ⟨hkey, hsum, hmin, hmax, hcount, hfilter⟩ := h
  exact (if_neg hkey).trans <| (if_neg hsum).trans <| (if_neg hmin).trans <|
    (if_neg hmax).trans <| (if_neg hcount).trans (if_neg hfilter)

theorem item_extremum (goal : Goal) :
    item stop position goal.name ts =
      (someFields stop ts).map fun found ↦ (.component (.extremum goal found.1), found.2) := by
  cases goal with
  | lowest => rfl
  | highest => rfl

/-- The least or greatest value that is read is derived from the tokens taken. -/
theorem derives_of_extremum {goal : Goal} {i : Item}
    (h : item stop position goal.name ts = .ok (i, left)) :
    ∃ kinds, Takes ts left kinds ∧ DerivesItem (.name goal.name :: kinds) i := by
  rw [item_extremum] at h
  obtain ⟨⟨ns, left⟩, hns, heq⟩ := map_eq_ok.1 h
  cases heq
  obtain ⟨name, n, kinds, ms, hname, hkinds, rfl, htakes⟩ := someFields_eq_ok_iff.1 hns
  exact ⟨_, htakes, .extremum hname hkinds⟩

/-- An item that is read is derived from its name and the tokens taken behind it. -/
theorem derives_of_item {i : Item} (h : item stop position name ts = .ok (i, left)) :
    ∃ kinds, Takes ts left kinds ∧ DerivesItem (.name name :: kinds) i := by
  by_cases hname : name ∈ words
  · simp only [words, List.mem_cons, List.not_mem_nil, or_false] at hname
    rcases hname with rfl | rfl | rfl | rfl | rfl | rfl
    · obtain ⟨⟨n, left⟩, hn, heq⟩ := map_eq_ok.1 h
      cases heq
      obtain ⟨name, hname, htakes⟩ := oneField_eq_ok_iff.1 hn
      exact ⟨_, htakes, .key hname⟩
    · obtain ⟨⟨n, left⟩, hn, heq⟩ := map_eq_ok.1 h
      cases heq
      obtain ⟨name, hname, htakes⟩ := oneField_eq_ok_iff.1 hn
      exact ⟨_, htakes, .sum hname⟩
    · exact @derives_of_extremum _ _ _ _ .lowest _ h
    · exact @derives_of_extremum _ _ _ _ .highest _ h
    · obtain ⟨⟨c, left⟩, hc, heq⟩ := map_eq_ok.1 h
      cases heq
      obtain ⟨-, rfl, rfl⟩ | ⟨name, n, hname, rfl, htakes⟩ := countTail_eq_ok_iff.1 hc
      · exact ⟨[], takes_nil.2 rfl, .count⟩
      · exact ⟨_, htakes, .distinct hname⟩
    · obtain ⟨⟨f, left⟩, hf, heq⟩ := map_eq_ok.1 h
      cases heq
      obtain ⟨name, n, text, hname, rfl, htakes⟩ := longFilter_eq_ok_iff.1 hf
      exact ⟨_, htakes, .filter hname⟩
  · rw [item_of_notMem_words hname] at h
    split at h
    · rename_i hfield
      obtain ⟨n, hn, heq⟩ := map_eq_ok.1 h
      cases heq
      exact ⟨[], takes_nil.2 rfl, .field (fieldName_iff.2 ⟨hfield, namedField_eq_ok_iff.1 hn⟩)⟩
    · split at h
      · cases h
      · rename_i c hc
        cases h
        exact ⟨[], takes_nil.2 rfl, .short (shortForm_eq_ok_iff.1 hc)⟩
      · rename_i n hn
        obtain ⟨⟨f, left⟩, hf, heq⟩ := map_eq_ok.1 h
        cases heq
        obtain ⟨text, rfl, htakes⟩ := filterPattern_eq_ok_iff.1 hf
        exact ⟨_, htakes, .shortFilter (shortForm_eq_ok_iff.1 hn)⟩

/-- An item that is derived is read, unless a parenthesis follows. -/
theorem item_of_derives {i : Item} (h : DerivesItem (.name name :: kinds) i)
    (htakes : Takes ts left kinds) (hnext : (front stop left).kind ≠ .openParen) :
    item stop position name ts = .ok (i, left) := by
  cases h with
  | key hname => exact map_eq_ok.2 ⟨(_, left), oneField_eq_ok_iff.2 ⟨_, hname, htakes⟩, rfl⟩
  | sum hname => exact map_eq_ok.2 ⟨(_, left), oneField_eq_ok_iff.2 ⟨_, hname, htakes⟩, rfl⟩
  | extremum hname hkinds =>
    rw [item_extremum]
    exact map_eq_ok.2
      ⟨(_, left), someFields_eq_ok_iff.2 ⟨_, _, _, _, hname, hkinds, rfl, htakes⟩, rfl⟩
  | count =>
    obtain rfl := takes_nil.1 htakes
    exact map_eq_ok.2 ⟨(_, ts), countTail_eq_ok_iff.2 (.inl ⟨hnext, rfl, rfl⟩), rfl⟩
  | distinct hname =>
    exact map_eq_ok.2
      ⟨(_, left), countTail_eq_ok_iff.2 (.inr ⟨_, _, hname, rfl, htakes⟩), rfl⟩
  | filter hname =>
    exact map_eq_ok.2 ⟨(_, left), longFilter_eq_ok_iff.2 ⟨_, _, _, hname, rfl, htakes⟩, rfl⟩
  | field hname =>
    obtain rfl := takes_nil.1 htakes
    obtain ⟨hfield, hn⟩ := fieldName_iff.1 hname
    rw [item_of_notMem_words (notMem_words_of_fieldName hname), if_pos hfield,
      namedField_eq_ok_iff.2 hn]
    rfl
  | @short _ c hname =>
    obtain rfl := takes_nil.1 htakes
    have hspells : ShortSpells name (.component c) := hname
    rw [item_of_notMem_words (notMem_words_of_shortSpells hspells),
      not_isFieldName_of_shortSpells hspells, if_neg Bool.false_ne_true,
      shortForm_eq_ok_iff.2 hspells]
  | @shortFilter _ text n hname =>
    have hspells : ShortSpells name (.filterOn n) := hname
    rw [item_of_notMem_words (notMem_words_of_shortSpells hspells),
      not_isFieldName_of_shortSpells hspells, if_neg Bool.false_ne_true,
      shortForm_eq_ok_iff.2 hspells]
    exact map_eq_ok.2 ⟨(_, left), filterPattern_eq_ok_iff.2 ⟨text, rfl, htakes⟩, rfl⟩

theorem DerivesItem.begins {i : Item} (h : DerivesItem kinds i) :
    ∃ name rest, kinds = .name name :: rest := by
  cases h <;> exact ⟨_, _, rfl⟩

end Rollup.Spec
