/-!
# What can be wrong with a pattern

A pattern that is not well formed, or that would need too much memory, is
refused with one of these causes.
-/

namespace Rollup.Pattern

inductive Fault where
  | classUnclosed
  | classEscape
  | classRange
  | classRangeEnd
  | countUnclosed
  | countMissing
  | countTooLarge
  | countReversed
  | escapeUnknown
  | escapeUnfinished
  | escapeHexDigit
  | escapeHexEmpty
  | escapeHexValue
  | backreference
  | flagUnknown
  | flagRepeated
  | flagDangling
  | flagUnfinished
  | groupNameInvalid
  | groupNameRepeated
  | groupUnclosed
  | groupUnopened
  | lookAround
  | nothingToRepeat
  | boundaryUnknown
  | propertyInvalid
  | propertyUnknown
  | unicodeNotAllowed
  | tooDeep
  | tooLarge
  deriving DecidableEq, Repr

def Fault.message : Fault → String
  | .classUnclosed => "unclosed character class"
  | .classEscape => "invalid escape sequence in character class"
  | .classRange => "invalid character class range, the start is above the end"
  | .classRangeEnd => "invalid range boundary, must be a literal"
  | .countUnclosed => "unclosed counted repetition"
  | .countMissing => "repetition quantifier expects a valid decimal"
  | .countTooLarge => "decimal literal is too large"
  | .countReversed => "invalid repetition count range, the start is above the end"
  | .escapeUnknown => "unrecognized escape sequence"
  | .escapeUnfinished => "incomplete escape sequence"
  | .escapeHexDigit => "invalid hexadecimal digit"
  | .escapeHexEmpty => "hexadecimal literal is empty"
  | .escapeHexValue => "hexadecimal literal is not a character"
  | .backreference => "backreferences are not supported"
  | .flagUnknown => "unrecognized flag"
  | .flagRepeated => "duplicate flag"
  | .flagDangling => "dangling flag negation operator"
  | .flagUnfinished => "expected flag but the pattern ended"
  | .groupNameInvalid => "invalid capture group name"
  | .groupNameRepeated => "duplicate capture group name"
  | .groupUnclosed => "unclosed group"
  | .groupUnopened => "unopened group"
  | .lookAround => "look-around is not supported"
  | .nothingToRepeat => "repetition operator missing expression"
  | .boundaryUnknown => "unrecognized word boundary assertion"
  | .propertyInvalid => "invalid property escape"
  | .propertyUnknown => "character property not found"
  | .unicodeNotAllowed => "a character beyond bytes is not allowed here"
  | .tooDeep => "the pattern is nested too deeply"
  | .tooLarge => "the compiled pattern is too large"

end Rollup.Pattern
