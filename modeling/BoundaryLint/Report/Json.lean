import BoundaryLint.Number.Shortest
import BoundaryLint.Text.Quoted

/-!
# Structured reports

A value of a structured report, and its text: two blanks for each level, and only printable ASCII
characters.
-/
namespace BoundaryLint.Report

open Number (Binary64)

/-- A value of a structured report. An object keeps its fields in order. -/
inductive Json where
  | bool (b : Bool)
  | int (n : Int)
  | float (x : Binary64)
  | str (s : String)
  | arr (items : List Json)
  | obj (fields : List (String × Json))
  deriving Repr, Inhabited

namespace Json

/-- One 16-bit unit as an escape. -/
def unitEscape (n : Nat) : List Char :=
  '\\' :: 'u' :: Text.hexDigits 4 n

/-- The text of one character between quotes. Characters beyond the first plane take two units. -/
def charText (c : Char) : List Char :=
  let n := Text.codeOf c
  if c == '"' then ['\\', '"']
  else if c == '\\' then ['\\', '\\']
  else if c == '\n' then ['\\', 'n']
  else if c == '\r' then ['\\', 'r']
  else if c == '\t' then ['\\', 't']
  else if n == 8 then ['\\', 'b']
  else if n == 12 then ['\\', 'f']
  else if 0x20 ≤ n && n ≤ 0x7e then [c]
  else if n < 0x10000 then unitEscape n
  else unitEscape (0xd800 + (n - 0x10000) / 1024) ++ unitEscape (0xdc00 + (n - 0x10000) % 1024)

def strText (s : String) : String :=
  "\"" ++ String.ofList (s.toList.flatMap charText) ++ "\""

def floatText : Binary64 → String
  | .nan => "NaN"
  | .infinite n => if n then "-Infinity" else "Infinity"
  | x => x.text

/-- A new line with the blanks of a level. -/
def newLine (level : Nat) : String :=
  "\n" ++ String.ofList (List.replicate (2 * level) ' ')

/-- Lines between brackets, each one level deeper; nothing stands between empty brackets. -/
def bracketed (level : Nat) (l : String) (lines : List String) (r : String) : String :=
  if lines.isEmpty then l ++ r
  else
    l ++ newLine (level + 1) ++ ("," ++ newLine (level + 1)).intercalate lines ++
      newLine level ++ r

mutual

/-- The text of a value that stands at a level. -/
def textAt (level : Nat) : Json → String
  | .bool b => if b then "true" else "false"
  | .int n => toString n
  | .float x => floatText x
  | .str s => strText s
  | .arr items => bracketed level "[" (itemTexts (level + 1) items) "]"
  | .obj fields => bracketed level "\x7b" (fieldTexts (level + 1) fields) "\x7d"

def itemTexts (level : Nat) : List Json → List String
  | [] => []
  | v :: vs => v.textAt level :: itemTexts level vs

def fieldTexts (level : Nat) : List (String × Json) → List String
  | [] => []
  | (k, v) :: fs => (strText k ++ ": " ++ v.textAt level) :: fieldTexts level fs

end

def text (v : Json) : String :=
  v.textAt 0

end Json

end BoundaryLint.Report
