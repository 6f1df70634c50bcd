import BoundaryLint.Value.Timestamp
import BoundaryLint.Yaml.Scalar.Quoted

/-!
# Dates and times in documents

A date is written with a year of four digits and with one or two digits for month and day. A plain
text is a date alone only if it has two digits for both.
-/
namespace BoundaryLint.Yaml.Timestamp

/-- A number of at least `lo` and at most `hi` digits. -/
def digits (lo hi : Nat) (cs : List Char) : Option (Nat × List Char) :=
  let ds := (cs.take hi).takeWhile fun c => '0' ≤ c && c ≤ '9'
  if ds.length < lo then none
  else some (ds.foldl (fun n c => n * 10 + (c.toNat - 48)) 0, cs.drop ds.length)

/-- The characters after a given one. -/
def after (c : Char) : List Char → Option (List Char)
  | [] => none
  | x :: xs => if x == c then some xs else none

def isGap (c : Char) : Bool :=
  c == ' ' || c == '\t'

/-- The millionths that the digits after a point write, of which six count. -/
def microsOf (ds : List Char) : Nat :=
  (ds.take 6 ++ List.replicate (6 - ds.length) '0').foldl (fun n c => n * 10 + (c.toNat - 48)) 0

/-- The offset at the end of a time. -/
def offsetOf (cs : List Char) : Option (Option Int) :=
  match cs.dropWhile isGap with
  | [] => if cs.isEmpty then some none else none
  | ['Z'] => some (some 0)
  | s :: cs =>
    if s == '+' || s == '-' then do
      let (hours, cs) ← digits 1 2 cs
      let (minutes, cs) ←
        match cs with
        | ':' :: cs => digits 2 2 cs
        | cs => some (0, cs)
      let n : Int := hours * 60 + minutes
      if cs.isEmpty then some (some (if s == '-' then -n else n)) else none
    else none

/-- A time of day after a date. -/
def dayTimeOf (cs : List Char) : Option DayTime := do
  let cs ←
    match cs with
    | 'T' :: cs => some cs
    | 't' :: cs => some cs
    | c :: cs => if isGap c then some (cs.dropWhile isGap) else none
    | [] => none
  let (hour, cs) ← digits 1 2 cs
  let (minute, cs) ← (after ':' cs).bind (digits 2 2)
  let (second, cs) ← (after ':' cs).bind (digits 2 2)
  let (micros, cs) :=
    match cs with
    | '.' :: cs =>
      let ds := cs.takeWhile fun c => '0' ≤ c && c ≤ '9'
      (microsOf ds, cs.drop ds.length)
    | cs => (0, cs)
  let offset ← offsetOf cs
  some { hour, minute, second, micros, offset }

/-- The date, or date and time, that a text writes. Month and day have at least `lo` digits each if
there is no time. -/
def read? (lo : Nat) (cs : List Char) : Option Timestamp := do
  let (year, cs) ← digits 4 4 cs
  let (month, afterMonth) ← (after '-' cs).bind (digits 1 2)
  let (day, afterDay) ← (after '-' afterMonth).bind (digits 1 2)
  if afterDay.isEmpty then
    if lo ≤ (cs.length - 1) - afterMonth.length && lo ≤ (afterMonth.length - 1) then
      some ⟨year, month, day, none⟩
    else none
  else
    let time ← dayTimeOf afterDay
    some ⟨year, month, day, some time⟩

/-- Whether a plain text is a date, or a date and a time. -/
def isForm (cs : List Char) : Bool :=
  (read? 2 cs).isSome

/-- The date, or date and time, that a text writes. A line break at its end does not count. -/
def ofText? (text : String) : Option Timestamp :=
  match text.toList.reverse with
  | '\n' :: cs => read? 1 cs.reverse
  | cs => read? 1 cs.reverse

end BoundaryLint.Yaml.Timestamp
