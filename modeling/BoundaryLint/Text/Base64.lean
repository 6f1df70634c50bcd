/-!
# Bytes written to the base 64

Each four letters write three bytes. Other characters are passed over, but all must be ASCII. Equals
signs end the text where they fill up a group of four, and are passed over elsewhere.
-/
namespace BoundaryLint.Text.Base64

/-- The six bits that a letter writes. -/
def letterValue? (c : Char) : Option Nat :=
  if 'A' ≤ c && c ≤ 'Z' then some (c.toNat - 65)
  else if 'a' ≤ c && c ≤ 'z' then some (c.toNat - 71)
  else if '0' ≤ c && c ≤ '9' then some (c.toNat + 4)
  else if c == '+' then some 62
  else if c == '/' then some 63
  else none

/-- The letters of a text up to its end, `none` if it ends within a group. `count` is the number of
letters in the open group, and `signs` that of the equals signs since the last letter. -/
def letters? (count signs : Nat) : List Char → Option (List Nat)
  | [] => if count == 0 then some [] else none
  | c :: cs =>
    if c == '=' then
      if 2 ≤ count && 4 ≤ count + signs + 1 then some []
      else letters? count (if 2 ≤ count then signs + 1 else signs) cs
    else
      match letterValue? c with
      | some n => (letters? ((count + 1) % 4) 0 cs).map (n :: ·)
      | none => letters? count signs cs

/-- The bytes of groups of letters. Of the last group, the letters that fill a byte count. -/
def groups : List Nat → List UInt8
  | a :: b :: c :: d :: rest =>
    (a * 4 + b / 16).toUInt8 :: (b % 16 * 16 + c / 4).toUInt8 :: (c % 4 * 64 + d).toUInt8 ::
      groups rest
  | [a, b, c] => [(a * 4 + b / 16).toUInt8, (b % 16 * 16 + c / 4).toUInt8]
  | [a, b] => [(a * 4 + b / 16).toUInt8]
  | _ => []

/-- The bytes that a text writes. -/
def decode? (cs : List Char) : Option (List UInt8) :=
  if cs.all fun c => c.toNat < 128 then (letters? 0 0 cs).map groups else none

end BoundaryLint.Text.Base64
