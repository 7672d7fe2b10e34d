import Rollup.Text.Quoted

/-!
# Tokens of the spec language, and what can be wrong with a spec

The words of a spec are arrows, names, parentheses, commas, and filter patterns
behind a tilde.  A spec that is not well formed is refused with a `Spec.Fault`,
which says what is wrong, at a position, which is a byte offset into the text.
-/

namespace Rollup.Spec

inductive TokenKind where
  /-- The arrow `=>` between two stages. -/
  | arrow
  /-- A word of ASCII letters, digits and underscores. -/
  | name (text : String)
  | openParen
  | closeParen
  | comma
  | tilde
  /-- The pattern behind a tilde, without its quotes. -/
  | pattern (text : String)
  /-- The end of the spec. -/
  | stop
  deriving DecidableEq, Repr

namespace TokenKind

/-- How a token is called in a message. -/
def describe : TokenKind → String
  | .arrow => "'=>'"
  | .name text => "'" ++ text ++ "'"
  | .openParen => "'('"
  | .closeParen => "')'"
  | .comma => "','"
  | .tilde => "'~'"
  | .pattern text => "pattern " ++ Quoted.text text
  | .stop => "end of spec"

end TokenKind

/-- A token and the byte offset of its first character. -/
structure Token where
  kind : TokenKind
  position : Nat
  deriving DecidableEq, Repr

/-- What is wrong with a spec. -/
inductive Fault where
  | unexpectedCharacter (c : Char)
  /-- Nothing stands behind a tilde that could be a pattern. -/
  | missingPattern
  | unterminatedString
  /-- A token that can start no item. -/
  | unexpected (found : TokenKind)
  | expected (wanted found : TokenKind)
  | expectedField (found : TokenKind)
  | expectedDistinct (found : TokenKind)
  | expectedPattern (found : TokenKind)
  /-- A field reference whose number is no number of 64 bits. -/
  | badField (name : String)
  | unknownItem (name : String)
  | missingNumber
  /-- A number of a short form that is no number of 64 bits. -/
  | badNumber (text : String)
  /-- A short form with several numbers where one is wanted. -/
  | oneNumber (code : String)
  /-- Fields to print beside aggregates in one stage. -/
  | mixedStage
  /-- Nothing stands behind an arrow. -/
  | emptyStage
  deriving DecidableEq, Repr

def Fault.message : Fault → String
  | .unexpectedCharacter c => "unexpected character " ++ Quoted.char c
  | .missingPattern => "expected pattern after '~'"
  | .unterminatedString => "unterminated string"
  | .unexpected found => "unexpected " ++ found.describe
  | .expected wanted found => "expected " ++ wanted.describe ++ " but found " ++ found.describe
  | .expectedField found => "expected field reference like _1 but found " ++ found.describe
  | .expectedDistinct found => "expected 'distinct' but found " ++ found.describe
  | .expectedPattern found => "expected pattern but found " ++ found.describe
  | .badField name => "bad field reference '" ++ name ++ "'"
  | .unknownItem name => "unknown item '" ++ name ++ "'"
  | .missingNumber => "expected field number"
  | .badNumber text => "bad integer '" ++ text ++ "'"
  | .oneNumber code => "'" ++ code ++ "' takes exactly one field number"
  | .mixedStage => "cannot mix field projections with aggregations in one stage"
  | .emptyStage => "unterminated stage"

/-- A fault and the byte offset it is found at. -/
structure Refusal where
  position : Nat
  fault : Fault
  deriving DecidableEq, Repr

end Rollup.Spec
