import BoundaryLint.Number.Binary64

/-!
# Shortest decimal text

A double is written with the fewest significant digits that read back as the same double, and of
several such decimals the nearest. Up to sixteen digits before the point and four zeros after it
the text is positional, beyond that it has an exponent of at least two digits.
-/
namespace BoundaryLint.Number

/-- Significant digits `digits * 10 ^ exponent`. -/
structure Decimal where
  digits : Nat
  exponent : Int
  deriving DecidableEq, Repr

namespace Decimal

/-- `num / den` over `10 ^ p` as a quotient of natural numbers. -/
def scaled (num den : Nat) (p : Int) : Nat × Nat :=
  if p < 0 then (num * Nat.pow 10 p.natAbs, den) else (num, den * Nat.pow 10 p.natAbs)

/-- The power of ten of the leading digit of `num / den`. -/
def leading (num den : Nat) : Int :=
  let guess : Int :=
    if den ≤ num then ((Nat.toDigits 10 (num / den)).length : Int) - 1
    else -((Nat.toDigits 10 (den / num)).length : Int)
  let (n, d) := scaled num den (guess + 1)
  if d ≤ n then guess + 1
  else
    let (n, d) := scaled num den guess
    if d ≤ n then guess else guess - 1

/-- The neighbours of `num / den` on the grid of `10 ^ p`, the nearer first. -/
def neighbours (num den : Nat) (p : Int) : List Decimal :=
  let (n, d) := scaled num den p
  let q := n / d
  let r := n % d
  if r == 0 then [⟨q, p⟩]
  else if 2 * r < d || (2 * r == d && q % 2 == 0) then [⟨q, p⟩, ⟨q + 1, p⟩]
  else [⟨q + 1, p⟩, ⟨q, p⟩]

/-- The first decimal, by number of digits and then by distance, that reads back as `m * 2 ^ e`;
`fuel` digits beyond the first are tried. -/
def search (m : Nat) (e lead : Int) : Nat → Nat → Decimal
  | 0, k =>
    let (n, d) := scaled (Binary64.ratio m e).1 (Binary64.ratio m e).2 (lead - k)
    ⟨roundDiv n d, lead - k⟩
  | fuel + 1, k =>
    let (n, d) := Binary64.ratio m e
    match (neighbours n d (lead - k)).find? fun c =>
        Binary64.ofDecimal false c.digits c.exponent == .finite false m e with
    | some c => c
    | none => search m e lead fuel (k + 1)

/-- The shortest decimal for the positive number `m * 2 ^ e`. -/
def shortest (m : Nat) (e : Int) : Decimal :=
  let (n, d) := Binary64.ratio m e
  search m e (leading n d) 17 0

/-- Drops the zeros at the end of a digit string, keeping the first digit. -/
def significant (ds : List Char) : List Char :=
  match (ds.reverse.dropWhile (· == '0')).reverse with
  | [] => ['0']
  | kept => kept

/-- Positional or exponent text of the digits `ds` whose first stands for `10 ^ lead`. -/
def layout (ds : List Char) (lead : Int) : List Char :=
  if -4 ≤ lead && lead < 16 then
    if lead < 0 then '0' :: '.' :: (List.replicate (lead.natAbs - 1) '0' ++ ds)
    else
      let whole := lead.toNat + 1
      let front := ds.take whole ++ List.replicate (whole - ds.length) '0'
      match ds.drop whole with
      | [] => front ++ ['.', '0']
      | back => front ++ '.' :: back
  else
    let head := match ds with
      | [] => []
      | [d] => [d]
      | d :: rest => d :: '.' :: rest
    let power := Nat.toDigits 10 lead.natAbs
    head ++ 'e' :: (if lead < 0 then '-' else '+') ::
      (List.replicate (2 - power.length) '0' ++ power)

end Decimal

/-- The shortest text that reads back as `x`. -/
def Binary64.text : Binary64 → String
  | .nan => "nan"
  | .infinite n => if n then "-inf" else "inf"
  | .finite n m e =>
    let body :=
      if m == 0 then ['0', '.', '0']
      else
        let d := Decimal.shortest m e
        let all := Nat.toDigits 10 d.digits
        Decimal.layout (Decimal.significant all) (d.exponent + all.length - 1)
    String.ofList (if n then '-' :: body else body)

end BoundaryLint.Number
