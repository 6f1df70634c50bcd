import BoundaryLint.Glob.Basic
import BoundaryLint.Glob.Error
import BoundaryLint.Regex.Match
import BoundaryLint.Regex.Parser

/-!
# Reading globs

A glob is read from left to right. The character before the current one decides whether `**` is a
whole segment. What stands in brackets is regular expression text and is taken over as it is, so a
class may reach beyond its first closing bracket.
-/
namespace BoundaryLint.Glob

/-- The body of a class and what follows its closing bracket. -/
def splitClass : List Char → Option (List Char × List Char)
  | [] => none
  | ']' :: cs => some ([], cs)
  | c :: cs => (splitClass cs).map fun (body, rest) => (c :: body, rest)

/-- A leading exclamation mark is the sign of negation. -/
def classBody : List Char → List Char
  | '!' :: body => '^' :: body
  | body => body

/-- `**` begins a segment at the start of the glob and after a slash. -/
def beginsSegment : Option Char → Bool
  | none => true
  | some c => c == '/'

mutual

/-- Pieces up to the end, or up to a comma or brace if `inner` holds, and what is left. -/
def pieces : Nat → Bool → Option Char → List Char → Except Fault (Expr (List Char) × List Char)
  | 0, _, _, cs => .ok (.nil, cs)
  | _ + 1, _, _, [] => .ok (.nil, [])
  | fuel + 1, inner, prev, c :: cs =>
    if inner && (c == ',' || c == '\x7d') then .ok (.nil, c :: cs)
    else
      match c, cs with
      | '*', '*' :: rest =>
        if beginsSegment prev then
          match rest with
          | [] => .ok (.cat .rest .nil, [])
          | '/' :: rest => (pieces fuel inner (some '/') rest).map fun (e, r) => (.cat .dirs e, r)
          | _ => .error .partialStars
        else .error .partialStars
      | '*', rest => (pieces fuel inner (some '*') rest).map fun (e, r) => (.cat .star e, r)
      | '?', rest => (pieces fuel inner (some '?') rest).map fun (e, r) => (.cat .one e, r)
      | '[', rest =>
        match splitClass rest with
        | none => .error .unterminatedClass
        | some (body, rest) =>
          if body.contains '/' then .error .slashInClass
          else
            (pieces fuel inner (some ']') rest).map fun (e, r) => (.cat (.cls (classBody body)) e, r)
      | '\x7b', rest =>
        match choices fuel (some '\x7b') rest with
        | .error f => .error f
        | .ok (body, rest) =>
          (pieces fuel inner (some '\x7d') rest).map fun (e, r) => (.cat (.brace body) e, r)
      | '\x7d', _ => .error .strayBrace
      | c, rest => (pieces fuel inner (some c) rest).map fun (e, r) => (.cat (.lit c) e, r)

/-- Alternatives up to the closing brace, which is taken too. -/
def choices : Nat → Option Char → List Char → Except Fault (Expr (List Char) × List Char)
  | 0, _, cs => .ok (.nil, cs)
  | fuel + 1, prev, cs =>
    match pieces fuel true prev cs with
    | .error f => .error f
    | .ok (_, []) => .error .unclosedBrace
    | .ok (e, '\x7d' :: rest) => .ok (e, rest)
    | .ok (e, _ :: rest) => (choices fuel (some ',') rest).map fun (es, r) => (.alt e es, r)

end

/-- The pieces of a glob. -/
def Expr.parse (cs : List Char) : Except Fault (Expr (List Char)) :=
  (pieces (2 * cs.length + 1) false none cs).map (·.1)

end BoundaryLint.Glob

namespace BoundaryLint

/-- A glob over project-relative paths. -/
structure Glob where
  source : String
  pattern : Regex.Pattern
  deriving Repr

namespace Glob

/-- One leading `./` is dropped. -/
def normalized : List Char → List Char
  | '.' :: '/' :: cs => cs
  | cs => cs

/-- Reads a glob from its text. -/
def ofText (s : String) : Except Error Glob :=
  if Text.isBlankText s then .error (.notText (.str s))
  else
    let cs := normalized s.toList
    if cs.head? == some '/' then .error (.absolute s)
    else
      match Expr.parse cs with
      | .error f => .error (.fault (String.ofList cs) f)
      | .ok e =>
        match Regex.Pattern.parse e.wholeText .none with
        | .error err => .error (.badClass s e.wholeText err)
        | .ok pattern => .ok { source := s, pattern }

/-- Reads a glob from a configuration value, which must be a text. -/
def ofValue : Value → Except Error Glob
  | .str s => ofText s
  | v => .error (.notText v)

def accepts (g : Glob) (path : String) : Bool :=
  g.pattern.matchesStart path.toList

end Glob

end BoundaryLint
