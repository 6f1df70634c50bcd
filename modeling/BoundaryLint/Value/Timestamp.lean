/-!
# Dates and times

A date, with or without a time of day. No part of a configuration takes one, so it matters only which
of them exist, when two are the same, and how they are shown.
-/
namespace BoundaryLint

/-- A time of day, with an offset from universal time in minutes if it has one. -/
structure DayTime where
  hour : Nat
  minute : Nat
  second : Nat
  micros : Nat
  offset : Option Int
  deriving DecidableEq, Repr

structure Timestamp where
  year : Nat
  month : Nat
  day : Nat
  time : Option DayTime
  deriving DecidableEq, Repr

namespace Timestamp

def isLeap (year : Nat) : Bool :=
  year % 4 == 0 && (year % 100 != 0 || year % 400 == 0)

def daysIn (year month : Nat) : Nat :=
  if month == 2 then if isLeap year then 29 else 28
  else if [4, 6, 9, 11].contains month then 30
  else 31

/-- A number with at least `width` digits. -/
def padded (width n : Nat) : String :=
  let s := toString n
  String.ofList (List.replicate (width - s.length) '0') ++ s

/-- A number of minutes as a span of days and seconds. -/
def spanShown (minutes : Int) : String :=
  let seconds := minutes * 60
  let days := seconds / 86400
  let rest := seconds % 86400
  let parts :=
    (if days == 0 then [] else [s!"days={days}"]) ++ (if rest == 0 then [] else [s!"seconds={rest}"])
  "datetime.timedelta(" ++ (if parts.isEmpty then "0" else ", ".intercalate parts) ++ ")"

/-- Why a date or a time does not exist. An offset of a day or more is found first. -/
def fault? (t : Timestamp) : Option String :=
  match t.time.bind (·.offset) with
  | some n =>
    if n.natAbs < 1440 then fieldFault? t
    else some ("offset must be a timedelta strictly between -timedelta(hours=24) and " ++
      "timedelta(hours=24), not " ++ spanShown n ++ ".")
  | none => fieldFault? t
where
  fieldFault? (t : Timestamp) : Option String :=
    if t.year == 0 then some "year 0 is out of range"
    else if t.month == 0 || 12 < t.month then some "month must be in 1..12"
    else if t.day == 0 || daysIn t.year t.month < t.day then some "day is out of range for month"
    else
      match t.time with
      | none => none
      | some c =>
        if 23 < c.hour then some "hour must be in 0..23"
        else if 59 < c.minute then some "minute must be in 0..59"
        else if 59 < c.second then some "second must be in 0..59"
        else none

/-- The days before a year and a month, counted from the first year. -/
def daysBefore (year month : Nat) : Nat :=
  let y := year - 1
  let earlier := (List.range' 1 (month - 1)).foldl (fun days m => days + daysIn year m) 0
  y * 365 + y / 4 - y / 100 + y / 400 + earlier

/-- The seconds from the first year to a time of day without its offset. -/
def seconds (t : Timestamp) (c : DayTime) : Int :=
  (((daysBefore t.year t.month + t.day) * 24 + c.hour) * 60 + c.minute) * 60 + c.second

/-- Whether two dates or times are the same. Times with offsets are compared in universal time; a time
without an offset is never that of one with an offset. -/
def same (a b : Timestamp) : Bool :=
  match a.time, b.time with
  | some c, some d =>
    match c.offset, d.offset with
    | some m, some n =>
      a.seconds c - m * 60 == b.seconds d - n * 60 && c.micros == d.micros
    | _, _ => a == b
  | _, _ => a == b

def offsetPlain (n : Int) : String :=
  (if n < 0 then "-" else "+") ++ padded 2 (n.natAbs / 60) ++ ":" ++ padded 2 (n.natAbs % 60)

/-- The text in running text. -/
def plain (t : Timestamp) : String :=
  let date := padded 4 t.year ++ "-" ++ padded 2 t.month ++ "-" ++ padded 2 t.day
  match t.time with
  | none => date
  | some c =>
    date ++ " " ++ padded 2 c.hour ++ ":" ++ padded 2 c.minute ++ ":" ++ padded 2 c.second ++
      (if c.micros == 0 then "" else "." ++ padded 6 c.micros) ++
      (c.offset.map offsetPlain).getD ""

def offsetShown (n : Int) : String :=
  if n == 0 then ", tzinfo=datetime.timezone.utc"
  else ", tzinfo=datetime.timezone(" ++ spanShown n ++ ")"

/-- The unambiguous text. -/
def shown (t : Timestamp) : String :=
  match t.time with
  | none => s!"datetime.date({t.year}, {t.month}, {t.day})"
  | some c =>
    let parts := [t.year, t.month, t.day, c.hour, c.minute] ++
      (if c.micros != 0 then [c.second, c.micros] else if c.second != 0 then [c.second] else [])
    "datetime.datetime(" ++ ", ".intercalate (parts.map toString) ++
      (c.offset.map offsetShown).getD "" ++ ")"

end Timestamp

end BoundaryLint
