import Rollup.Unicode.Category
import Rollup.Unicode.Property

/-!
# Quoted text in messages

Messages show characters and texts of the input between quotes, and must not
be broken up by what they show.  A character that could not be seen, or that
would attach to the quote before it, is written as its code point in braces;
the usual line breaks and the quote itself get a backslash.

* `Quoted.char` shows one character between single quotes.
* `Quoted.text` shows a text between double quotes.
-/

namespace Rollup.Quoted

open Unicode

/-- The code points that print by themselves: not controls, formats, surrogates,
private or unassigned, and no separators other than the plain space. -/
def visible : Nat → Bool :=
  (Ranges.minus
    (Category.ranges ["Lu", "Ll", "Lt", "Lm", "Lo", "Mn", "Mc", "Me", "Nd", "Nl", "No",
      "Pc", "Pd", "Ps", "Pe", "Pi", "Pf", "Po", "Sm", "Sc", "Sk", "So"] ++ [(0x20, 0x20)]
      |> Ranges.ofList)
    Property.graphemeExtendRanges).prepared

/-- The code point of a character in braces, in lower-case hexadecimal. -/
def codePoint (c : Char) : List Char :=
  ['\\', 'u', '\x7b'] ++ Nat.toDigits 16 c.toNat ++ ['\x7d']

/-- One character as it stands inside quotes made of `quote`. -/
def escape (quote c : Char) : List Char :=
  if c = '\x00' then ['\\', '0']
  else if c = '\t' then ['\\', 't']
  else if c = '\n' then ['\\', 'n']
  else if c = '\x0d' then ['\\', 'r']
  else if c = '\\' || c = quote then ['\\', c]
  else if visible c.toNat then [c]
  else codePoint c

/-- A character between single quotes. -/
def char (c : Char) : String := String.ofList ('\'' :: escape '\'' c ++ ['\''])

/-- A text between double quotes. -/
def text (t : String) : String :=
  String.ofList ('"' :: t.toList.flatMap (escape '"') ++ ['"'])

end Rollup.Quoted
