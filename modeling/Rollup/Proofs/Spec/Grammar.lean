import Mathlib.Data.List.Forall2
import Rollup.Spec.Parser
import Rollup.Spec.Printer

/-!
# The grammar of specs

What a list of tokens spells is given here by derivations, without reading from left to
right and without positions.

| Relation | Derives |
|---|---|
| `Numeral` | the digits of a number |
| `FieldName` | `_N` |
| `ShortName`, `ShortFilterName` | the name of a short form |
| `DerivesItem`, `DerivesItems` | the items of a stage |
| `DerivesStage` | a stage |
| `Derives` | a pipeline |

The end of the spec is no token here.  That items of different kinds stand in one stage
is ruled out where items become a stage (`Denotes`): a stage that has a key or an
aggregate has no fields to print.
-/

namespace Rollup.Spec

/-! ## Names with numbers -/

/-- The digits of a number that fits in 64 bits. -/
structure Numeral (digits : List Char) (n : Nat) : Prop where
  ne_nil : digits ≠ []
  digit : ∀ c ∈ digits, c.isDigit = true
  value : Nat.ofDigitChars 10 digits 0 = n
  lt : n < 1 <<< 64

/-- The name of a field, such as `_3`. -/
def FieldName (name : String) (n : Nat) : Prop :=
  ∃ digits, name.toList = '_' :: digits ∧ Numeral digits n

/-- The letter of a short form that looks for this end of a range. -/
def letter : Goal → Char
  | .lowest => 'm'
  | .highest => 'M'

/-- The name of a short form for a key or an aggregate. -/
inductive ShortName : String → Component → Prop
  | count : ShortName "c" .count
  | key {name : String} {digits : List Char} {n : Nat} :
    name.toList = 'k' :: digits → Numeral digits n → ShortName name (.key n)
  | sum {name : String} {digits : List Char} {n : Nat} :
    name.toList = 's' :: digits → Numeral digits n → ShortName name (.sum n)
  | distinct {name : String} {digits : List Char} {n : Nat} :
    name.toList = 'c' :: 'd' :: digits → Numeral digits n → ShortName name (.distinct n)
  /-- Several numbers have underscores between them. -/
  | extremum {name : String} {goal : Goal} {pieces : List (List Char)} {ns : List Nat} :
    name.toList = letter goal :: ['_'].intercalate pieces → pieces ≠ [] →
      List.Forall₂ Numeral pieces ns → ShortName name (.extremum goal ns)

/-- The name of a short form for a filter. -/
inductive ShortFilterName : String → Nat → Prop
  | first : ShortFilterName "f" 0
  | field {name : String} {digits : List Char} {n : Nat} :
    name.toList = 'f' :: digits → Numeral digits n → ShortFilterName name n

/-! ## Items -/

/-- `("," field)*` -/
inductive DerivesMore : List TokenKind → List Nat → Prop
  | nil : DerivesMore [] []
  | cons {name : String} {n : Nat} {kinds : List TokenKind} {ns : List Nat} :
    FieldName name n → DerivesMore kinds ns → DerivesMore (.comma :: .name name :: kinds) (n :: ns)

/-- The tokens of an item, in its long form or its short one. -/
inductive DerivesItem : List TokenKind → Item → Prop
  | key {name : String} {n : Nat} : FieldName name n →
    DerivesItem [.name "key", .openParen, .name name, .closeParen] (.component (.key n))
  | sum {name : String} {n : Nat} : FieldName name n →
    DerivesItem [.name "sum", .openParen, .name name, .closeParen] (.component (.sum n))
  | extremum {goal : Goal} {name : String} {n : Nat} {kinds : List TokenKind} {ns : List Nat} :
    FieldName name n → DerivesMore kinds ns →
      DerivesItem (.name goal.name :: .openParen :: .name name :: (kinds ++ [.closeParen]))
        (.component (.extremum goal (n :: ns)))
  | count : DerivesItem [.name "count"] (.component .count)
  | distinct {name : String} {n : Nat} : FieldName name n →
    DerivesItem [.name "count", .openParen, .name "distinct", .comma, .name name, .closeParen]
      (.component (.distinct n))
  | filter {name text : String} {n : Nat} : FieldName name n →
    DerivesItem [.name "filter", .openParen, .name name, .tilde, .pattern text, .closeParen]
      (.filter ⟨n, text⟩)
  | field {name : String} {n : Nat} : FieldName name n → DerivesItem [.name name] (.field n)
  | short {name : String} {c : Component} : ShortName name c →
    DerivesItem [.name name] (.component c)
  | shortFilter {name text : String} {n : Nat} : ShortFilterName name n →
    DerivesItem [.name name, .tilde, .pattern text] (.filter ⟨n, text⟩)

/-- The tokens of items, one after the other. -/
inductive DerivesItems : List TokenKind → List Item → Prop
  | nil : DerivesItems [] []
  | cons {kinds kinds' : List TokenKind} {i : Item} {is : List Item} :
    DerivesItem kinds i → DerivesItems kinds' is → DerivesItems (kinds ++ kinds') (i :: is)

/-! ## Stages -/

namespace Item

def filter? : Item → Option Filter
  | .filter f => some f
  | _ => none

def field? : Item → Option Nat
  | .field n => some n
  | _ => none

def component? : Item → Option Component
  | .component c => some c
  | _ => none

end Item

/-- The stage that items make up.  Its filters, fields and components are those of the
items, in order. -/
inductive Denotes (is : List Item) : Stage → Prop
  | project : is.filterMap Item.component? = [] →
    Denotes is ⟨is.filterMap Item.filter?, .project (is.filterMap Item.field?)⟩
  | aggregate : is.filterMap Item.component? ≠ [] → is.filterMap Item.field? = [] →
    Denotes is ⟨is.filterMap Item.filter?, .aggregate (is.filterMap Item.component?)⟩

/-- The tokens of a stage. -/
def DerivesStage (kinds : List TokenKind) (s : Stage) : Prop :=
  ∃ is, DerivesItems kinds is ∧ Denotes is s

/-! ## Pipelines -/

/-- The tokens of the stages behind the first, none of them empty, and each behind an
arrow. -/
inductive DerivesBehind : List TokenKind → List Stage → Prop
  | nil : DerivesBehind [] []
  | cons {kinds kinds' : List TokenKind} {s : Stage} {stages : List Stage} :
    kinds ≠ [] → DerivesStage kinds s → DerivesBehind kinds' stages →
      DerivesBehind (.arrow :: (kinds ++ kinds')) (s :: stages)

/-- The tokens of a pipeline, whose first stage may be empty. -/
inductive Derives : List TokenKind → Pipeline → Prop
  | intro {kinds kinds' : List TokenKind} {first : Stage} {rest : List Stage} :
    DerivesStage kinds first → DerivesBehind kinds' rest → Derives (kinds ++ kinds') ⟨first :: rest⟩

end Rollup.Spec
