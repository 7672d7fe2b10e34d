import Rollup.Unicode.Age
import Rollup.Unicode.Boundary
import Rollup.Unicode.Category
import Rollup.Unicode.Property
import Rollup.Unicode.ScriptExtensions

/-!
# Sets with a name

A pattern asks for a set of characters by the name of a binary property, of a
general category or of a script, or by a property and one of its values.  Names
are compared loosely, as the standard recommends: case, spaces, hyphens,
underscores and a leading "is" do not count.

This module also fixes the three sets that have an escape of their own: digits,
white space and word characters.
-/

namespace Rollup.Unicode

/-! ## Names -/

/-- Whether the name starts with "is", in any case. -/
def startsWithIs : List Char → Bool
  | i :: s :: _ => i.toLower = 'i' && s.toLower = 's'
  | _ => false

/-- A name in the spelling of the tables.  The leading "is" stays where it is
not a mere ornament: `isc` is a name of its own, and none of a category. -/
def looseName (name : List Char) : String :=
  let body := if startsWithIs name then name.drop 2 else name
  let kept := body.filter fun c ↦ c.toNat < 0x80 && c ≠ ' ' && c ≠ '_' && c ≠ '-'
  let text := String.ofList (kept.map Char.toLower)
  if startsWithIs name && text = "c" then "isc" else text

/-- The general category with this name, or one of three sets that are asked
for in the same way. -/
def generalCategory? : String → Option Ranges
  | "any" => some [(0, 0x10FFFF)]
  | "assigned" => (Category.named? "unassigned").map Ranges.complement
  | "ascii" => some [(0, 0x7F)]
  | name => Category.named? name

/-- The abbreviations that name a category as well as a property that is not
binary; they mean the category. -/
def categoryFirst (name : String) : Bool := name = "cf" || name = "sc" || name = "lc"

/-- The set that a single name stands for. -/
def set? (name : List Char) : Option Ranges :=
  let name := looseName name
  let property := if categoryFirst name then none else Property.named? name
  property <|> generalCategory? name <|> Script.named? name

/-- The set of the characters for which a property has a value. -/
def valueSet? (property value : List Char) : Option Ranges :=
  let value := looseName value
  match looseName property with
  | "gc" | "generalcategory" => generalCategory? value
  | "sc" | "script" => Script.named? value
  | "scx" | "scriptextensions" => Script.usedWith? value
  | "age" => Age.named? value
  | "gcb" | "graphemeclusterbreak" => Boundary.grapheme.named? value
  | "wb" | "wordbreak" => Boundary.word.named? value
  | "sb" | "sentencebreak" => Boundary.sentence.named? value
  | _ => none

/-! ## Digits, white space and word characters -/

/-- Decimal digits of all scripts. -/
def digits : Ranges := Category.ranges ["Nd"]

/-- White space of all scripts. -/
def whiteSpace : Ranges := Property.whiteSpaceRanges

/-- The characters that words are made of: letters, marks, decimal digits,
connecting punctuation, and the joiners between letters. -/
def wordCharacters : Ranges :=
  Ranges.ofList
    (Property.alphabeticRanges ++ Category.ranges ["Mn", "Mc", "Me", "Nd", "Pc"] ++
      Ranges.ofRunLengths Property.joinControl)

/-- Letters of all scripts. -/
def letters : Ranges := Property.alphabeticRanges

/-- Letters and numbers of all scripts, decimal or not. -/
def lettersAndNumbers : Ranges :=
  Ranges.union letters (Category.ranges ["Nd", "Nl", "No"])

end Rollup.Unicode
