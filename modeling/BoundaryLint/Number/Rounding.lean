/-!
# Rounding a quotient

A quotient of natural numbers is rounded to the nearest natural number, a half to the even one.
-/
namespace BoundaryLint.Number

/-- `num / den` rounded to the nearest natural number, a half to the even neighbour. -/
def roundDiv (num den : Nat) : Nat :=
  let q := num / den
  let r := num % den
  if 2 * r < den then q
  else if den < 2 * r then q + 1
  else q + q % 2

end BoundaryLint.Number
