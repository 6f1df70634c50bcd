import BoundaryLint.Number.Rounding

/-!
# Double-precision numbers

A finite number is a sign, a significand below `2 ^ 53` and a power of two. Every operation
computes the exact result as a quotient of natural numbers and rounds it once, to the nearest
double and in a tie to the even significand.
-/
namespace BoundaryLint.Number

/-- A double-precision number: `finite neg m e` is `m * 2 ^ e`, negated if `neg` holds. -/
inductive Binary64 where
  | finite (neg : Bool) (m : Nat) (e : Int)
  | infinite (neg : Bool)
  | nan
  deriving DecidableEq, Repr, Inhabited

namespace Binary64

/-- The least exponent, that of the subnormal numbers. -/
def minExponent : Int := -1074

/-- The greatest exponent of a finite number. -/
def maxExponent : Int := 971

def zero : Binary64 := .finite false 0 minExponent

/-- `num / den` over `2 ^ e` as a quotient of natural numbers. -/
def scaled (num den : Nat) (e : Int) : Nat × Nat :=
  if e < 0 then (num * Nat.pow 2 e.natAbs, den) else (num, den * Nat.pow 2 e.natAbs)

/-- The exponent of the double nearest to `num / den`: the quotient has 53 binary digits above it,
unless that exponent is below the least one. -/
def exponentFor (num den : Nat) : Int :=
  let guess : Int := (num.log2 : Int) - den.log2 - 53
  let (n, d) := scaled num den (guess + 1)
  let e := if d * Nat.pow 2 52 ≤ n then guess + 1 else guess
  max e minExponent

/-- The double nearest to `num / den`, a tie to the even significand. -/
def ofRatio (neg : Bool) (num den : Nat) : Binary64 :=
  if num == 0 then .finite neg 0 minExponent
  else
    let e := exponentFor num den
    let (n, d) := scaled num den e
    let m := roundDiv n d
    let (m, e) := if m == Nat.pow 2 53 then (Nat.pow 2 52, e + 1) else (m, e)
    if maxExponent < e then .infinite neg else .finite neg m e

/-- The magnitude `m * 2 ^ e` as a quotient. -/
def ratio (m : Nat) (e : Int) : Nat × Nat :=
  if e < 0 then (m, Nat.pow 2 e.natAbs) else (m * Nat.pow 2 e.natAbs, 1)

def ofInt (n : Int) : Binary64 :=
  ofRatio (n < 0) n.natAbs 1

/-- `digits * 10 ^ exponent`, rounded. Far beyond the doubles, and far below the least of them, the
power is not computed. -/
def ofDecimal (neg : Bool) (digits : Nat) (exponent : Int) : Binary64 :=
  if digits == 0 then .finite neg 0 minExponent
  else if 400 < exponent then .infinite neg
  else if exponent < -(401 + (digits.log2 : Int)) then .finite neg 0 minExponent
  else if exponent < 0 then ofRatio neg digits (Nat.pow 10 exponent.natAbs)
  else ofRatio neg (digits * Nat.pow 10 exponent.natAbs) 1

def neg : Binary64 → Binary64
  | .finite n m e => .finite (!n) m e
  | .infinite n => .infinite (!n)
  | .nan => .nan

/-- The exact sum of two finite numbers as a signed numerator over a power of two. -/
def sumRatio (n₁ : Bool) (m₁ : Nat) (e₁ : Int) (n₂ : Bool) (m₂ : Nat) (e₂ : Int) : Int × Nat :=
  let (a₁, b₁) := ratio m₁ e₁
  let (a₂, b₂) := ratio m₂ e₂
  let s₁ : Int := if n₁ then -(a₁ * b₂ : Nat) else (a₁ * b₂ : Nat)
  let s₂ : Int := if n₂ then -(a₂ * b₁ : Nat) else (a₂ * b₁ : Nat)
  (s₁ + s₂, b₁ * b₂)

/-- A sum; a zero sum is negative only if both operands are. -/
def add : Binary64 → Binary64 → Binary64
  | .nan, _ => .nan
  | _, .nan => .nan
  | .infinite a, .infinite b => if a == b then .infinite a else .nan
  | .infinite a, _ => .infinite a
  | _, .infinite b => .infinite b
  | .finite n₁ m₁ e₁, .finite n₂ m₂ e₂ =>
    let (s, d) := sumRatio n₁ m₁ e₁ n₂ m₂ e₂
    if s == 0 then .finite (n₁ && n₂) 0 minExponent else ofRatio (s < 0) s.natAbs d

def sub (x y : Binary64) : Binary64 :=
  x.add y.neg

def mul : Binary64 → Binary64 → Binary64
  | .nan, _ => .nan
  | _, .nan => .nan
  | .infinite a, .infinite b => .infinite (a != b)
  | .infinite a, .finite n m _ => if m == 0 then .nan else .infinite (a != n)
  | .finite n m _, .infinite b => if m == 0 then .nan else .infinite (n != b)
  | .finite n₁ m₁ e₁, .finite n₂ m₂ e₂ =>
    let (a₁, b₁) := ratio m₁ e₁
    let (a₂, b₂) := ratio m₂ e₂
    ofRatio (n₁ != n₂) (a₁ * a₂) (b₁ * b₂)

/-- The quotient by a positive natural number. -/
def divNat : Binary64 → Nat → Binary64
  | .nan, _ => .nan
  | .infinite a, _ => .infinite a
  | .finite n m e, k =>
    let (a, b) := ratio m e
    ofRatio n a (b * k)

/-- Strictly less; false whenever an operand is not a number. -/
def lt : Binary64 → Binary64 → Bool
  | .nan, _ => false
  | _, .nan => false
  | .infinite a, .infinite b => a && !b
  | .infinite a, _ => a
  | _, .infinite b => !b
  | .finite n₁ m₁ e₁, .finite n₂ m₂ e₂ => (sumRatio n₁ m₁ e₁ (!n₂) m₂ e₂).1 < 0

/-- The integer that a number is equal to. -/
def toInt? : Binary64 → Option Int
  | .finite n m e =>
    let (a, b) := ratio m e
    if a % b == 0 then some (if n then -(a / b : Nat) else (a / b : Nat)) else none
  | _ => none

/-- Numeric equality: the two zeros are equal. -/
def same : Binary64 → Binary64 → Bool
  | .finite n₁ m₁ e₁, .finite n₂ m₂ e₂ => (sumRatio n₁ m₁ e₁ (!n₂) m₂ e₂).1 == 0
  | .infinite a, .infinite b => a == b
  | _, _ => false

end Binary64

end BoundaryLint.Number
