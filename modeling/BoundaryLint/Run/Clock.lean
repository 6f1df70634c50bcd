import BoundaryLint.Number.Binary64

/-!
# The clock of a run

A run looks at a clock when it starts and ends and around each rule. How far the clock goes between
two looks is given from outside.
-/
namespace BoundaryLint

open Number (Binary64)

/-- A clock in seconds that goes on by the same step at each look. -/
structure Clock where
  now : Binary64 := .zero
  step : Binary64 := .zero
  deriving DecidableEq, Repr

namespace Clock

/-- The clock after a look; its time is what was seen. -/
def look (c : Clock) : Clock :=
  { c with now := c.now.add c.step }

/-- The milliseconds from a time to now. -/
def since (c : Clock) (start : Binary64) : Binary64 :=
  (c.now.sub start).mul (.ofInt 1000)

end Clock

end BoundaryLint
