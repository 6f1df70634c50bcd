import BoundaryLint.Number.Binary64

/-!
# Fixed places

A double written with a fixed number of decimal places. The exact binary value is rounded, and a
half goes to the even neighbour.
-/
namespace BoundaryLint.Number

/-- `units` tenths, hundredths, ... by the number of places. -/
def placeText (places units : Nat) : List Char :=
  let ds := Nat.toDigits 10 units
  let padded := List.replicate (places + 1 - ds.length) '0' ++ ds
  if places == 0 then padded
  else
    let whole := padded.length - places
    padded.take whole ++ '.' :: padded.drop whole

/-- The number with `places` decimal places. -/
def Binary64.fixed (places : Nat) : Binary64 → String
  | .nan => "nan"
  | .infinite n => if n then "-inf" else "inf"
  | .finite n m e =>
    let (a, b) := Binary64.ratio m e
    let body := placeText places (roundDiv (a * Nat.pow 10 places) b)
    String.ofList (if n then '-' :: body else body)

end BoundaryLint.Number
