import BoundaryLint.Number.Binary64
import BoundaryLint.Number.Integer
import BoundaryLint.Text.Lower

/-!
# Numbers in documents

Underscores between digits do not count. An integer may be binary, octal or hexadecimal by what it
starts with, and parts between colons are digits to the base sixty.
-/
namespace BoundaryLint.Yaml

open Number (Binary64 integer natural? splitSign)

/-- Why a text with the tag of a number is none. -/
inductive NumberFault where
  | empty
  | notInteger (base : Nat) (text : String)
  | tooLong (digits : Nat)
  | notFloat (text : String)
  /-- A weight to the base sixty is beyond the doubles. -/
  | beyondDoubles
  deriving DecidableEq, Repr

/-- An integer to a base, with blanks and a sign before it and blanks after it. -/
def integerOf (base : Nat) (cs : List Char) : Except NumberFault Int :=
  match integer base cs with
  | .ok n => .ok n
  | .error .malformed => .error (.notInteger base (String.ofList cs))
  | .error (.tooLong n) => .error (.tooLong n)

/-- The parts of a text between colons. -/
def colonParts (cs : List Char) : List (List Char) :=
  (String.ofList cs).splitOn ":" |>.map String.toList

def spaceless (s : String) : List Char :=
  s.toList.filter (· != '_')

/-- The integer that a text writes. -/
def intOf (s : String) : Except NumberFault Int :=
  let cs := spaceless s
  let (neg, ds) := splitSign cs
  let size : Except NumberFault Int :=
    match ds with
    | [] => .error .empty
    | ['0'] => .ok 0
    | '0' :: 'b' :: ds => integerOf 2 ds
    | '0' :: 'x' :: ds => integerOf 16 ds
    | '0' :: ds => integerOf 8 ('0' :: ds)
    | ds =>
      if ds.contains ':' then
        ((colonParts ds).mapM (integerOf 10)).map fun ns => ns.foldl (fun n d => n * 60 + d) 0
      else integerOf 10 ds
  size.map fun n => if neg then -n else n

/-- The exponent at the end of a decimal. -/
def exponentOf? (cs : List Char) : Option Int :=
  match cs with
  | [] => some 0
  | e :: cs =>
    if e == 'e' then
      let (neg, ds) := splitSign cs
      (natural? 10 ds).map fun n => if neg then -(n : Int) else n
    else none

/-- The double nearest to a decimal without a sign. -/
def decimalOf? (cs : List Char) : Option Binary64 :=
  let whole := cs.takeWhile Text.isDecimal
  let rest := cs.drop whole.length
  let (part, rest) :=
    match rest with
    | '.' :: ds =>
      let part := ds.takeWhile Text.isDecimal
      (part, ds.drop part.length)
    | rest => ([], rest)
  match natural? 10 (whole ++ part), exponentOf? rest with
  | some n, some e => some (.ofDecimal false n (e - part.length))
  | _, _ => none

/-- A double with a sign and blanks around it; infinity and the missing number have names. -/
def floatPart (cs : List Char) : Except NumberFault Binary64 :=
  let (neg, ds) := splitSign (Text.trimNumber cs)
  let size : Option Binary64 :=
    match String.ofList ds with
    | "inf" => some (.infinite false)
    | "infinity" => some (.infinite false)
    | "nan" => some .nan
    | _ => decimalOf? ds
  match size with
  | some x => .ok (if neg then x.neg else x)
  | none => .error (.notFloat (String.ofList cs))

/-- The sum of parts to the base sixty, the last part first, where each weighs `weight` or more. -/
def sixties : List Binary64 → Nat → Binary64 → Except NumberFault Binary64
  | [], _, sum => .ok sum
  | x :: xs, weight, sum =>
    match Binary64.ofInt weight with
    | .infinite _ => .error .beyondDoubles
    | w => sixties xs (weight * 60) (sum.add (x.mul w))

/-- The characters of a double in lower case and without underscores. -/
def floatChars (s : String) : List Char :=
  Text.lowerText (spaceless s)

/-- Whether a text with the tag of a double is the name of the missing number. -/
def isMissingNumber (s : String) : Bool :=
  (splitSign (floatChars s)).2 == ".nan".toList

/-- The double that a text writes. -/
def floatOf (s : String) : Except NumberFault Binary64 :=
  let cs := floatChars s
  let (neg, ds) := splitSign cs
  let size : Except NumberFault Binary64 :=
    if cs.isEmpty then .error .empty
    else if ds == ".inf".toList then .ok (.infinite false)
    else if ds == ".nan".toList then .ok .nan
    else if ds.contains ':' then
      ((colonParts ds).mapM floatPart).bind fun xs => sixties xs.reverse 1 .zero
    else floatPart ds
  size.map fun x => if neg then x.neg else x

end BoundaryLint.Yaml
