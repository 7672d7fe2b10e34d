/-!
# Goals

The two ends of a range that an aggregate can look for.
-/

namespace Rollup

/-- Which end of a range an aggregate looks for. -/
inductive Goal where
  | lowest
  | highest
  deriving DecidableEq, Repr

end Rollup
