import BoundaryLint.Text.Blank
import BoundaryLint.Text.Letter

/-!
# Integers in text
-/
namespace BoundaryLint.Number

/-- The value of a digit to any base up to 36. -/
def digitValue? (c : Char) : Option Nat :=
  match Text.decimalValue? c with
  | some n => some n
  | none =>
    if 'a' ≤ c && c ≤ 'z' then some (c.toNat - 87)
    else if 'A' ≤ c && c ≤ 'Z' then some (c.toNat - 55)
    else none

/-- The natural number that digits write to a base. -/
def natural? (base : Nat) (cs : List Char) : Option Nat :=
  if cs.isEmpty then none
  else
    cs.foldlM (fun n c => (digitValue? c).bind fun d =>
      if d < base then some (n * base + d) else none) 0

/-- Digits without the single underscores that may stand between two of them. -/
def joined : List Char → List Char
  | c :: '_' :: d :: cs =>
    if c == '_' || d == '_' then c :: '_' :: joined (d :: cs) else c :: joined (d :: cs)
  | c :: cs => c :: joined cs
  | [] => []

/-- A sign in front of a number, and what follows it. -/
def splitSign (cs : List Char) : Bool × List Char :=
  match cs with
  | '-' :: ds => (true, ds)
  | '+' :: ds => (false, ds)
  | ds => (false, ds)

/-- Digits without the mark of their base, a zero and a letter. -/
def unmarked (base : Nat) : List Char → List Char
  | '0' :: c :: ds =>
    if (base == 2 && c.toLower == 'b') || (base == 8 && c.toLower == 'o') ||
        (base == 16 && c.toLower == 'x') then
      match ds with
      | '_' :: rest => rest
      | rest => rest
    else '0' :: c :: ds
  | ds => ds

/-- How many digits a decimal integer may have, read or shown. -/
def digitLimit : Nat := 4300

/-- Why a text is no integer. -/
inductive IntegerFault where
  | malformed
  | tooLong (digits : Nat)
  deriving DecidableEq, Repr

/-- Whether reading digits to a base is free of the limit, as it is for powers of two. -/
def isFreeBase (base : Nat) : Bool :=
  [2, 4, 8, 16, 32].contains base

/-- The number of digits in front. -/
def digitCount (base : Nat) (cs : List Char) : Nat :=
  (cs.takeWhile fun c => (digitValue? c).any (· < base)).length

/-- An integer to a base, with blanks around it and a sign in front of it. Too many digits are found
before anything behind them. -/
def integer (base : Nat) (cs : List Char) : Except IntegerFault Int :=
  let (neg, ds) := splitSign (Text.trimNumber cs)
  let ds := joined (unmarked base ds)
  let count := digitCount base ds
  if !isFreeBase base && digitLimit < count then .error (.tooLong count)
  else
    match natural? base ds with
    | some n => .ok (if neg then -(n : Int) else n)
    | none => .error .malformed

def integer? (base : Nat) (cs : List Char) : Option Int :=
  (integer base cs).toOption

/-- What is said of an integer with too many digits, whose number is known when it is read. -/
def limitMessage (digits : Option Nat) : String :=
  let found := match digits with
    | some n => s!": value has {n} digits"
    | none => ""
  s!"Exceeds the limit ({digitLimit} digits) for integer string conversion" ++ found ++
    "; use sys.set_int_max_str_digits() to increase the limit"

/-- Whether an integer is short enough to be shown. -/
def isShowable (n : Int) : Bool :=
  n.natAbs < Nat.pow 10 digitLimit

end BoundaryLint.Number
