/-!
# Blanks

Two sets of characters separate things in this library, and they differ.

| Set | Members | Separates |
|---|---|---|
| `isAsciiBlank` | space, tab, line feed, form feed, carriage return | tokens of a spec |
| `isBlank` | the characters with property White_Space | a bare pattern from what follows |

The first is part of the second.  Fields of an input line are separated by spaces
and tabs alone, which is the business of `Rollup.Row`.
-/

namespace Rollup

/-- Blank between the tokens of a spec.  The vertical tab is not among them. -/
def isAsciiBlank (c : Char) : Bool :=
  c = ' ' || c = '\t' || c = '\n' || c = '\x0c' || c = '\x0d'

/-- White space of any script. -/
def isBlank (c : Char) : Bool :=
  ('\t' ≤ c && c ≤ '\x0d') || c = ' ' || c = '\x85' || c = '\xA0' || c = '\u1680' ||
    ('\u2000' ≤ c && c ≤ '\u200A') || c = '\u2028' || c = '\u2029' || c = '\u202F' ||
    c = '\u205F' || c = '\u3000'

theorem isBlank_of_isAsciiBlank {c : Char} (h : isAsciiBlank c = true) : isBlank c = true := by
  simp only [isAsciiBlank, Bool.or_eq_true, decide_eq_true_eq] at h
  obtain (((rfl | rfl) | rfl) | rfl) | rfl := h <;> decide

end Rollup
