import Rollup.Outcome
import Rollup.Spec.Lexer
import Rollup.Spec.Pipeline

/-!
# Reading a pipeline from its tokens

```text
pipeline := stage ("=>" stage)*                 only the first stage may be empty
stage    := item*
item     := "key" "(" field ")" | "sum" "(" field ")"
          | ("min" | "max") "(" field ("," field)* ")"
          | "count" [ "(" "distinct" "," field ")" ]
          | "filter" "(" field "~" pattern ")"
          | field | short
field    := "_" number
short    := c | k number | s number | cd number
          | (m | M) number ("_" number)*
          | f "~" pattern | f number "~" pattern
```

A short form is a single token: its letters and numbers are not separated.
Every number has to fit in 64 bits.  A stage that lists fields to print can
hold no key and no aggregate beside them.

Each reader takes the tokens that are left, and returns what it read with the
tokens behind it.  The token that marks the end of the spec is not among them:
its position is the argument `stop`, and whoever looks for a token where there
is none finds it there.
-/

namespace Rollup.Spec

/-! ## Numbers -/

/-- The number written by decimal digits, if there are any and it fits in 64 bits. -/
def number? (digits : List Char) : Option Nat :=
  if digits.isEmpty || !digits.all Char.isDigit then none
  else
    let n := Nat.ofDigitChars 10 digits 0
    if n < 1 <<< 64 then some n else none

/-- Cuts a text at every `separator`. -/
def pieces (separator : Char) : List Char → List (List Char)
  | [] => [[]]
  | c :: rest =>
    if c = separator then [] :: pieces separator rest
    else match pieces separator rest with
      | [] => [[c]]
      | piece :: more => (c :: piece) :: more

/-- The numbers of a short form, separated by underscores. -/
def numbers (position : Nat) (text : List Char) : Except Refusal (List Nat) :=
  if text.isEmpty then .error ⟨position, .missingNumber⟩
  else (pieces '_' text).mapM fun piece ↦
    match number? piece with
    | some n => .ok n
    | none => .error ⟨position, .badNumber (String.ofList piece)⟩

/-! ## Single tokens -/

/-- The token in front, which is the end of the spec if none is left. -/
def front (stop : Nat) (ts : List Token) : Token := ts.headD ⟨.stop, stop⟩

/-- Takes a token of the kind `wanted`. -/
def expect (stop : Nat) (wanted : TokenKind) (ts : List Token) : Except Refusal (List Token) :=
  let found := front stop ts
  if found.kind = wanted then .ok ts.tail
  else .error ⟨found.position, .expected wanted found.kind⟩

/-- The field that a name beginning with an underscore refers to. -/
def namedField (position : Nat) (name : String) : Except Refusal Nat :=
  match number? name.toList.tail with
  | some n => .ok n
  | none => .error ⟨position, .badField name⟩

/-- Whether the name is a reference to a field. -/
def isFieldName (name : String) : Bool := name.toList.head? = some '_'

/-- The field that a token refers to. -/
def fieldOf (t : Token) : Except Refusal Nat :=
  match t.kind with
  | .name name =>
    if isFieldName name then namedField t.position name
    else .error ⟨t.position, .expectedField t.kind⟩
  | _ => .error ⟨t.position, .expectedField t.kind⟩

/-- Takes a field reference. -/
def field (stop : Nat) (ts : List Token) : Except Refusal (Nat × List Token) :=
  (fieldOf (front stop ts)).map fun n ↦ (n, ts.tail)

/-! ## Arguments -/

/-- `"(" field ")"` -/
def oneField (stop : Nat) (ts : List Token) : Except Refusal (Nat × List Token) := do
  let ts ← expect stop .openParen ts
  let (n, ts) ← field stop ts
  let ts ← expect stop .closeParen ts
  return (n, ts)

/-- `("," field)*` -/
def moreFields (stop : Nat) : List Token → Except Refusal (List Nat × List Token)
  | [] => .ok ([], [])
  | [t] =>
    if t.kind = .comma then .error ⟨stop, .expectedField .stop⟩ else .ok ([], [t])
  | t :: next :: rest =>
    if t.kind = .comma then do
      let n ← fieldOf next
      let (ns, ts) ← moreFields stop rest
      return (n :: ns, ts)
    else .ok ([], t :: next :: rest)

/-- `"(" field ("," field)* ")"` -/
def someFields (stop : Nat) (ts : List Token) : Except Refusal (List Nat × List Token) := do
  let ts ← expect stop .openParen ts
  let (n, ts) ← field stop ts
  let (ns, ts) ← moreFields stop ts
  let ts ← expect stop .closeParen ts
  return (n :: ns, ts)

/-- What follows the word `count`. -/
def countTail (stop : Nat) (ts : List Token) : Except Refusal (Component × List Token) :=
  if (front stop ts).kind ≠ .openParen then .ok (.count, ts)
  else
    let word := front stop ts.tail
    if word.kind ≠ .name "distinct" then .error ⟨word.position, .expectedDistinct word.kind⟩
    else do
    let ts ← expect stop .comma ts.tail.tail
    let (n, ts) ← field stop ts
    let ts ← expect stop .closeParen ts
    return (.distinct n, ts)

/-- `"~" pattern` -/
def filterPattern (stop : Nat) (n : Nat) (ts : List Token) :
    Except Refusal (Filter × List Token) := do
  let ts ← expect stop .tilde ts
  match (front stop ts).kind with
  | .pattern text => .ok (⟨n, text⟩, ts.tail)
  | kind => .error ⟨(front stop ts).position, .expectedPattern kind⟩

/-- `"(" field "~" pattern ")"` -/
def longFilter (stop : Nat) (ts : List Token) : Except Refusal (Filter × List Token) := do
  let ts ← expect stop .openParen ts
  let (n, ts) ← field stop ts
  let (f, ts) ← filterPattern stop n ts
  let ts ← expect stop .closeParen ts
  return (f, ts)

/-! ## Items -/

/-- One item of a stage. -/
inductive Item where
  | filter (f : Filter)
  | field (n : Nat)
  | component (c : Component)
  deriving DecidableEq, Repr

/-- The letters of a short form and its numbers: `cd` before anything else, and
otherwise the first letter. -/
def shortCode (name : List Char) : List Char × List Char :=
  if ['c', 'd'].isPrefixOf name then (['c', 'd'], name.drop 2) else (name.take 1, name.drop 1)

/-- What a short form stands for; a filter still needs its pattern. -/
inductive Short where
  | component (c : Component)
  | filterOn (field : Nat)
  deriving DecidableEq, Repr

/-- The only number of a short form with the letters `code`. -/
def oneNumber (position : Nat) (code : List Char) : List Nat → Except Refusal Nat
  | [n] => .ok n
  | _ => .error ⟨position, .oneNumber (String.ofList code)⟩

def shortForm (position : Nat) (name : String) : Except Refusal Short :=
  if name = "c" then .ok (.component .count)
  else if name = "f" then .ok (.filterOn 0)
  else
    let (code, digits) := shortCode name.toList
    if code ∉ [['k'], ['s'], ['m'], ['M'], ['c', 'd'], ['f']] then
      .error ⟨position, .unknownItem name⟩
    else do
      let ns ← numbers position digits
      if code = ['m'] then return .component (.extremum .lowest ns)
      else if code = ['M'] then return .component (.extremum .highest ns)
      else
        let n ← oneNumber position code ns
        if code = ['k'] then return .component (.key n)
        else if code = ['s'] then return .component (.sum n)
        else if code = ['c', 'd'] then return .component (.distinct n)
        else return .filterOn n

/-- The item that the token with this name and position begins; `ts` are the
tokens behind it. -/
def item (stop position : Nat) (name : String) (ts : List Token) :
    Except Refusal (Item × List Token) :=
  if name = "key" then (oneField stop ts).map fun (n, ts) ↦ (.component (.key n), ts)
  else if name = "sum" then (oneField stop ts).map fun (n, ts) ↦ (.component (.sum n), ts)
  else if name = "min" then
    (someFields stop ts).map fun (ns, ts) ↦ (.component (.extremum .lowest ns), ts)
  else if name = "max" then
    (someFields stop ts).map fun (ns, ts) ↦ (.component (.extremum .highest ns), ts)
  else if name = "count" then (countTail stop ts).map fun (c, ts) ↦ (.component c, ts)
  else if name = "filter" then (longFilter stop ts).map fun (f, ts) ↦ (.filter f, ts)
  else if isFieldName name then (namedField position name).map fun n ↦ (.field n, ts)
  else match shortForm position name with
    | .error refusal => .error refusal
    | .ok (.component c) => .ok (.component c, ts)
    | .ok (.filterOn n) => (filterPattern stop n ts).map fun (f, ts) ↦ (.filter f, ts)

/-! ### No reader adds tokens -/

open Outcome

theorem expect_length {stop : Nat} {wanted : TokenKind} {ts left : List Token}
    (h : expect stop wanted ts = .ok left) : left.length ≤ ts.length := by
  grind [expect]

theorem field_length {stop n : Nat} {ts left : List Token}
    (h : field stop ts = .ok (n, left)) : left.length ≤ ts.length := by
  grind [field, map_eq_ok]

theorem oneField_length {stop n : Nat} {ts left : List Token}
    (h : oneField stop ts = .ok (n, left)) : left.length ≤ ts.length := by
  simp only [oneField, bind_eq_ok, pure_eq_ok] at h
  grind [→ expect_length, → field_length]

theorem moreFields_length {stop : Nat} {ts left : List Token} {ns : List Nat}
    (h : moreFields stop ts = .ok (ns, left)) : left.length ≤ ts.length := by
  fun_induction moreFields stop ts generalizing ns left with
  | case4 t next rest ht ih =>
    simp only [bind_eq_ok, pure_eq_ok] at h
    grind
  | _ => grind

theorem someFields_length {stop : Nat} {ts left : List Token} {ns : List Nat}
    (h : someFields stop ts = .ok (ns, left)) : left.length ≤ ts.length := by
  simp only [someFields, bind_eq_ok, pure_eq_ok] at h
  grind [→ expect_length, → field_length, → moreFields_length]

theorem countTail_length {stop : Nat} {ts left : List Token} {c : Component}
    (h : countTail stop ts = .ok (c, left)) : left.length ≤ ts.length := by
  simp only [countTail] at h
  split at h
  · grind
  · split at h
    · cases h
    · simp only [bind_eq_ok, pure_eq_ok] at h
      grind [→ expect_length, → field_length]

theorem filterPattern_length {stop n : Nat} {ts left : List Token} {f : Filter}
    (h : filterPattern stop n ts = .ok (f, left)) : left.length ≤ ts.length := by
  simp only [filterPattern, bind_eq_ok] at h
  obtain ⟨ts', hts, h⟩ := h
  have := expect_length hts
  split at h <;> cases h
  grind

theorem longFilter_length {stop : Nat} {ts left : List Token} {f : Filter}
    (h : longFilter stop ts = .ok (f, left)) : left.length ≤ ts.length := by
  simp only [longFilter, bind_eq_ok, pure_eq_ok] at h
  grind [→ expect_length, → field_length, → filterPattern_length]

theorem item_length {stop position : Nat} {name : String} {ts left : List Token} {i : Item}
    (h : item stop position name ts = .ok (i, left)) : left.length ≤ ts.length := by
  unfold item at h
  grind [map_eq_ok, → oneField_length, → someFields_length, → countTail_length,
    → longFilter_length, → filterPattern_length]

/-! ## Stages -/

/-- The items of a stage with their positions, up to an arrow or the end. -/
def items (stop : Nat) (ts : List Token) :
    Except Refusal (List (Nat × Item) × List Token) :=
  match ts with
  | [] => .ok ([], [])
  | ⟨.arrow, position⟩ :: rest => .ok ([], ⟨.arrow, position⟩ :: rest)
  | ⟨.stop, position⟩ :: rest => .ok ([], ⟨.stop, position⟩ :: rest)
  | ⟨.name name, position⟩ :: rest =>
    match h : item stop position name rest with
    | .error refusal => .error refusal
    | .ok (i, left) =>
      have := item_length h
      (items stop left).map fun (is, left) ↦ ((position, i) :: is, left)
  | t :: _ => .error ⟨t.position, .unexpected t.kind⟩
  termination_by ts.length
  decreasing_by simp only [List.length_cons]; omega

/-- Where the first field to print stands, and where the first component. -/
def firstField? (is : List (Nat × Item)) : Option Nat :=
  is.findSome? fun (position, i) ↦ match i with
    | .field _ => some position
    | _ => none

@[inherit_doc firstField?]
def firstComponent? (is : List (Nat × Item)) : Option Nat :=
  is.findSome? fun (position, i) ↦ match i with
    | .component _ => some position
    | _ => none

/-- The stage with these items, each kind in the order of the text. -/
def assemble (is : List Item) : Stage where
  filters := is.filterMap fun | .filter f => some f | _ => none
  body :=
    match is.filterMap fun | .component c => some c | _ => none with
    | [] => .project (is.filterMap fun | .field n => some n | _ => none)
    | components => .aggregate components

/-- A stage, up to an arrow or the end. -/
def stage (stop : Nat) (ts : List Token) : Except Refusal (Stage × List Token) :=
  match items stop ts with
  | .error refusal => .error refusal
  | .ok (is, left) =>
    match firstField? is, firstComponent? is with
    | some f, some c => .error ⟨max f c, .mixedStage⟩
    | _, _ => .ok (assemble (is.map (·.2)), left)

theorem items_length {stop : Nat} {ts left : List Token} {is : List (Nat × Item)}
    (h : items stop ts = .ok (is, left)) : left.length ≤ ts.length := by
  fun_induction items stop ts generalizing is left with
  | case5 name position rest i left' hi this ih =>
    obtain ⟨⟨is', left''⟩, hrec, heq⟩ := map_eq_ok.1 h
    cases heq
    exact Nat.le_succ_of_le (Nat.le_trans (ih hrec) this)
  | _ => grind

theorem stage_length {stop : Nat} {ts left : List Token} {s : Stage}
    (h : stage stop ts = .ok (s, left)) : left.length ≤ ts.length := by
  unfold stage at h
  grind [→ items_length]

/-! ## Pipelines -/

/-- The stages behind the first one, each of them after an arrow. -/
def moreStages (stop : Nat) (ts : List Token) : Except Refusal (List Stage) :=
  match ts with
  | [] => .ok []
  | t :: rest =>
    if t.kind = .arrow then
      let next := front stop rest
      if next.kind = .arrow || next.kind = .stop then
        .error ⟨max next.position t.position, .emptyStage⟩
      else match h : stage stop rest with
        | .error refusal => .error refusal
        | .ok (s, left) =>
          have := stage_length h
          (moreStages stop left).map (s :: ·)
    else .error ⟨t.position, .unexpected t.kind⟩
  termination_by ts.length
  decreasing_by simp only [List.length_cons]; omega

/-- The pipeline that the tokens of a spec spell, which ends at byte `stop`. -/
def pipelineOf (stop : Nat) (ts : List Token) : Except Refusal Pipeline :=
  match stage stop ts with
  | .error refusal => .error refusal
  | .ok (first, left) => (moreStages stop left).map fun rest ↦ ⟨first :: rest⟩

/-- The pipeline that a spec denotes. -/
def parse (text : String) : Except Refusal Pipeline :=
  match tokensFrom 0 text.toList with
  | .error refusal => .error refusal
  | .ok ts => pipelineOf (byteLength text.toList) ts

end Rollup.Spec
