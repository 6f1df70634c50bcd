/-!
# Paths

A path is a list of names. Names that are empty or a single dot are dropped when a path is read; two
dots are kept, because they lead out of a directory only if that directory exists. Exactly two slashes
at the front are kept in the text of a path, and lead to the same place as one.
-/
namespace BoundaryLint

/-- A path as it is written. -/
structure Path where
  absolute : Bool
  doubled : Bool := false
  names : List String
  deriving DecidableEq, Repr

namespace Path

def ofText (s : String) : Path :=
  { absolute := s.toList.head? == some '/'
    doubled := (s.toList.takeWhile (· == '/')).length == 2
    names := ((s.toList.splitOn '/').map String.ofList).filter fun n => n != "" && n != "." }

def text (p : Path) : String :=
  if p.absolute then (if p.doubled then "//" else "/") ++ "/".intercalate p.names
  else if p.names.isEmpty then "."
  else "/".intercalate p.names

/-- The last name, empty if there is none. -/
def name (p : Path) : String :=
  p.names.getLast?.getD ""

/-- A path seen from another one; an absolute path stays what it is. -/
def join (p q : Path) : Path :=
  if q.absolute then q else { p with names := p.names ++ q.names }

/-- One step from a place given by the names that lead to it, the last one first. -/
def stepFrom (place : List String) (name : String) : List String :=
  if name == ".." then place.tail else name :: place

/-- The place that a path names when it is read from a place, without looking at files. Places are
the names that lead to them from the top. -/
def resolve (cwd : List String) (p : Path) : List String :=
  (p.names.foldl stepFrom (if p.absolute then [] else cwd.reverse)).reverse

end Path

/-- The text of a place. -/
def placeText (place : List String) : String :=
  "/" ++ "/".intercalate place

/-- A place as seen from a root: the names below it, or the whole text if it is not below it. -/
def relativeText (root place : List String) : String :=
  if root.isPrefixOf place then
    let below := place.drop root.length
    if below.isEmpty then "." else "/".intercalate below
  else placeText place

end BoundaryLint
