/-!
# Tables of character ranges

A class of characters above ASCII is a list of closed ranges of code points.
-/
namespace BoundaryLint.Text

/-- Closed ranges of code points. -/
abbrev Ranges := List (Nat × Nat)

namespace Ranges

/-- The first range that holds `n`. -/
def find? (t : Ranges) (n : Nat) : Option (Nat × Nat) :=
  List.find? (fun r => r.1 ≤ n && n ≤ r.2) t

def contains (t : Ranges) (n : Nat) : Bool :=
  t.any fun r => r.1 ≤ n && n ≤ r.2

end Ranges

end BoundaryLint.Text
