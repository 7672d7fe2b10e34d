import Rollup.Number.Standard
import Rollup.Proofs.Table.Grouping

/-!
# The keys of groups can be read back

Two rows get the same byte string as a key exactly if their key fields agree, whatever
stood in the buffer that the string is written to (`Key.write_eq_iff`).  A group exists
only because a row with its byte string was given (`Grouping.mem_groups_after`), and so
the key columns of a group show the key fields of all its rows (`Grouping.fill_after`).

This holds also if rows were refused on the way: a refused row can leave its group
half-updated, but begins none that is not its own.
-/

namespace Rollup

open Outcome

namespace Outcome

variable {ε α β : Type} {f g : α → Except ε β} {as : List α} {bs cs : List β}

/-- Two lists of results are equal exactly if the computations agree item by item. -/
theorem mapM_eq_iff (hf : as.mapM f = .ok bs) (hg : as.mapM g = .ok cs) :
    bs = cs ↔ ∀ a ∈ as, f a = g a := by
  induction as generalizing bs cs with
  | nil =>
    cases hf
    cases hg
    simp
  | cons a as ih =>
    obtain ⟨b, bs, hb, hbs, rfl⟩ := mapM_cons_eq_ok.1 hf
    obtain ⟨c, cs, hc, hcs, rfl⟩ := mapM_cons_eq_ok.1 hg
    rw [List.cons.injEq, List.forall_mem_cons, ih hbs hcs, hb, hc, Except.ok.injEq]

end Outcome

open Grouping (tuple code)

/-! ## Keys of two rows -/

namespace Key

/-- Two rows have the same key exactly if their key fields agree. -/
theorem write_eq_iff {keys : List Key} {row row' : Row} {values values' : List Bytes}
    (hrow : tuple keys row = .ok values) (hrow' : tuple keys row' = .ok values')
    (hshort : ∀ value ∈ values, value.length < 1 <<< 32)
    (hshort' : ∀ value ∈ values', value.length < 1 <<< 32) (buffer buffer' : Bytes) :
    ∃ key key', write buffer keys row = .done key ∧ write buffer' keys row' = .done key' ∧
      (key = key' ↔ ∀ k ∈ keys, row.field k.field = row'.field k.field) := by
  obtain ⟨key, hkey⟩ := exists_encodeFields hshort
  obtain ⟨key', hkey'⟩ := exists_encodeFields hshort'
  refine ⟨key, key', write_eq_done.2 ⟨values, hrow, hkey⟩,
    write_eq_done.2 ⟨values', hrow', hkey'⟩, ?_⟩
  rw [← mapM_eq_iff hrow hrow']
  constructor
  · rintro rfl
    exact encodeFields_inj hkey hkey'
  · rintro rfl
    exact Except.ok.inj (hkey.symm.trans hkey')

end Key

/-! ## Groups after some rows -/

namespace Grouping

variable {g : Grouping} {bundle : Bundle} {keys : List Key} {row : Row} {rows : List Row}
  {k : Bytes}

theorem mem_of_mem_ordered {order : GroupOrder} {entry : Bytes × Buffer}
    (h : entry ∈ g.ordered order) : entry.1 ∈ g.groups := by
  obtain ⟨key, -, hentry⟩ := List.mem_filterMap.1 h
  obtain ⟨buffer, hbuffer, rfl⟩ := Option.map_eq_some_iff.1 hentry
  exact Std.TreeMap.mem_iff_isSome_getElem?.2 (Option.isSome_of_eq_some hbuffer)

section

variable [NumberReader]

/-- What is left of the groups and aggregators after some rows, any of which may have
been refused. -/
def after (keys : List Key) (bundle : Bundle) (rows : List Row) : Grouping × Bundle :=
  rows.foldl (fun state row ↦ (state.1.push state.2 row).state) (.new keys, bundle)

theorem after_snoc (keys : List Key) (bundle : Bundle) (rows : List Row) (row : Row) :
    after keys bundle (rows ++ [row]) =
      ((after keys bundle rows).1.push (after keys bundle rows).2 row).state := by
  rw [after, List.foldl_append]
  rfl

/-- A row keeps the keys, and begins at most the group of its own byte string. -/
theorem push_begins (g : Grouping) (bundle : Bundle) (row : Row) :
    (g.push bundle row).state.1.keys = g.keys ∧
      ∀ k, k ∈ (g.push bundle row).state.1.groups → k ∈ g.groups ∨ keyOf g.keys row = .ok k := by
  cases hkey : keyOf g.keys row with
  | error e =>
    rw [push, hkey]
    exact ⟨rfl, fun k hk ↦ .inl hk⟩
  | ok own =>
    have hinsert (buffer : Buffer) (k : Bytes) (hk : k ∈ g.groups.insert own buffer) :
        k ∈ g.groups ∨ Except.ok (ε := Error) own = .ok k := by
      rw [Std.TreeMap.mem_insert, Std.LawfulEqCmp.compare_eq_iff_eq] at hk
      exact hk.symm.imp_right (congrArg _)
    simp only [push, hkey]
    cases g.groups[own]? with
    | some buffer => exact ⟨rfl, hinsert _⟩
    | none =>
      dsimp only
      cases (bundle.start row).outcome with
      | error e => exact ⟨rfl, fun k hk ↦ .inl hk⟩
      | ok u => exact ⟨rfl, hinsert _⟩

theorem keys_after (keys : List Key) (bundle : Bundle) (rows : List Row) :
    (after keys bundle rows).1.keys = keys := by
  induction rows using List.reverseRecOn with
  | nil => rfl
  | append_singleton rows row ih => rw [after_snoc, (push_begins _ _ _).1, ih]

/-- Every group was begun by a row. -/
theorem mem_groups_after (hk : k ∈ (after keys bundle rows).1.groups) :
    ∃ row ∈ rows, keyOf keys row = .ok k := by
  induction rows using List.reverseRecOn with
  | nil => exact absurd hk Std.TreeMap.not_mem_emptyc
  | append_singleton rows row ih =>
    rw [after_snoc] at hk
    rcases (push_begins _ _ _).2 k hk with hold | hnew
    · obtain ⟨row', hrow', hkey⟩ := ih hold
      exact ⟨row', List.mem_append_left _ hrow', hkey⟩
    · rw [keys_after] at hnew
      exact ⟨row, List.mem_append_right _ (List.mem_singleton_self row), hnew⟩

/-- The key columns of a group are filled with the key fields that all its rows have, and
that one row has. -/
theorem fill_after {order : GroupOrder} {entry : Bytes × Buffer}
    (h : entry ∈ (after keys bundle rows).1.ordered order) :
    ∃ values, (∃ row ∈ rows, tuple keys row = .ok values) ∧
      (∀ row ∈ rows, keyOf keys row = .ok entry.1 ↔ tuple keys row = .ok values) ∧
      ∀ bundle' columns, (after keys bundle rows).1.fill bundle' columns entry =
        (columns.putAll ((keys.map Key.column).zip values)).andThen (bundle'.print entry.2) := by
  obtain ⟨row, hrow, hkey⟩ := mem_groups_after (mem_of_mem_ordered h)
  obtain ⟨values, hvalues, hcode⟩ := keyOf_eq_ok.1 hkey
  have hlength : values.length = keys.length := length_of_tuple hvalues
  refine ⟨values, ⟨row, hrow, hvalues⟩, fun other _ ↦ ?_, fun bundle' columns ↦ ?_⟩
  · rw [keyOf_eq_ok]
    constructor
    · rintro ⟨others, hothers, hcode'⟩
      rwa [code_inj (hlength.trans (length_of_tuple hothers).symm) hcode hcode']
    · exact fun hother ↦ ⟨values, hother, hcode⟩
  · rw [fill, keys_after, keyColumns_of_code hlength hcode]

/-- The encodings of fields, one after the other, are read back as these fields, and are
those of no other list.  So two rows have the same key, in whatever buffers, exactly if
their key fields agree, and the columns of a group show the key fields of its rows, in the
order of the keys. -/
theorem keys_read_back :
    (∀ values : List Bytes, (∀ value ∈ values, value.length < 1 <<< 32) →
      ∃ encodings, values.mapM Key.encodeField = .ok encodings ∧
        Key.decodeFields encodings.flatten = .ok values) ∧
    (∀ values values' : List Bytes, ∀ encodings encodings' : List Bytes,
      values.mapM Key.encodeField = .ok encodings → values'.mapM Key.encodeField = .ok encodings' →
        encodings.flatten = encodings'.flatten → values = values') ∧
    (∀ (keys : List Key) (row row' : Row) (values values' : List Bytes),
      tuple keys row = .ok values → tuple keys row' = .ok values' →
      (∀ value ∈ values, value.length < 1 <<< 32) → (∀ value ∈ values', value.length < 1 <<< 32) →
      ∀ buffer buffer', ∃ key key', Key.write buffer keys row = .done key ∧
        Key.write buffer' keys row' = .done key' ∧
          (key = key' ↔ ∀ k ∈ keys, row.field k.field = row'.field k.field)) ∧
    (∀ (keys : List Key) (bundle : Bundle) (rows : List Row) (order : GroupOrder),
      ∀ entry ∈ (after keys bundle rows).1.ordered order, ∃ values,
        (∃ row ∈ rows, tuple keys row = .ok values) ∧
        (∀ row ∈ rows, keyOf keys row = .ok entry.1 ↔ tuple keys row = .ok values) ∧
        ∀ bundle' columns, (after keys bundle rows).1.fill bundle' columns entry =
          (columns.putAll ((keys.map Key.column).zip values)).andThen
            (bundle'.print entry.2)) := by
  refine ⟨fun values hshort ↦ ?_, fun values values' encodings encodings' h h' heq ↦ ?_,
    fun keys row row' values values' hrow hrow' hshort hshort' ↦
      Key.write_eq_iff hrow hrow' hshort hshort', fun keys bundle rows order entry ↦ fill_after⟩
  · obtain ⟨bytes, hbytes⟩ := Key.exists_encodeFields hshort
    obtain ⟨encodings, hencodings, rfl⟩ := Key.encodeFields_eq_ok.1 hbytes
    exact ⟨encodings, hencodings, Key.decodeFields_of_encodeFields hbytes⟩
  · exact Key.encodeFields_inj (Key.encodeFields_eq_ok.2 ⟨encodings, h, rfl⟩)
      (Key.encodeFields_eq_ok.2 ⟨encodings', h', heq.symm⟩)

end

open Standard

/-- Fields that spell the same text together. -/
theorem keys_read_back_shifted :
    let keys : List Key := [⟨0, 0⟩, ⟨1, 1⟩]
    ∃ key key', Key.write [0xFF] keys (.ofFields [[97, 98], [99]]) = .done key ∧
      Key.write [] keys (.ofFields [[97], [98, 99]]) = .done key' ∧ key ≠ key' := by
  intro keys
  obtain ⟨key, key', hkey, hkey', hiff⟩ := keys_read_back.2.2.1 keys (.ofFields [[97, 98], [99]])
    (.ofFields [[97], [98, 99]]) [[97, 98], [99]] [[97], [98, 99]] rfl rfl (by decide) (by decide)
    [0xFF] []
  refine ⟨key, key', hkey, hkey', fun heq ↦ ?_⟩
  exact absurd (hiff.1 heq ⟨0, 0⟩ List.mem_cons_self) (by decide)

end Grouping

end Rollup
