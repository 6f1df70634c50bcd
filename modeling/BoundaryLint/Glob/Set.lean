import BoundaryLint.Glob.Parser

/-!
# Sets of globs

A path matches a set if it matches some glob of it. A glob that ends in `/**` covers every
directory that the glob without this ending matches: all that lies below such a directory matches.
-/
namespace BoundaryLint

/-- Globs with the texts they were read from. -/
structure GlobSet where
  patterns : List String
  globs : List Glob
  directories : List Glob
  deriving Repr

namespace GlobSet

/-- The glob of the directories that a glob covers. -/
def directoryPart? (s : String) : Option String :=
  match s.toList.reverse with
  | '*' :: '*' :: '/' :: c :: cs => some (String.ofList (c :: cs).reverse)
  | _ => none

/-- The set of the given globs. -/
def ofGlobs (globs : List Glob) : Except Glob.Error GlobSet := do
  let patterns := globs.map (·.source)
  let directories ← (patterns.filterMap directoryPart?).mapM Glob.ofText
  return { patterns, globs, directories }

def ofTexts (patterns : List String) : Except Glob.Error GlobSet := do
  ofGlobs (← patterns.mapM Glob.ofText)

/-- Reads a set from values, of which each must be a text. -/
def ofValues (vs : List Value) : Except Glob.Error GlobSet := do
  ofGlobs (← vs.mapM Glob.ofValue)

def accepts (s : GlobSet) (path : String) : Bool :=
  s.globs.any (·.accepts path)

/-- Whether every path below the directory matches. -/
def covers (s : GlobSet) (directory : String) : Bool :=
  s.directories.any (·.accepts directory)

end GlobSet

end BoundaryLint
