/-!
# Modes of a regular expression

A mode is switched by a letter: `i` ignores case, `m` lets anchors match at lines, `s` lets the dot
match a line feed, `x` allows white space and comments, `a` restricts classes to ASCII, `u` is the
default, and `t` forbids repetition.
-/
namespace BoundaryLint.Regex

/-- A set of modes by their letters. -/
structure Flags where
  letters : List Char := []
  deriving DecidableEq, Repr, Inhabited

namespace Flags

def none : Flags := {}

def has (f : Flags) (c : Char) : Bool :=
  f.letters.contains c

def add (f : Flags) (c : Char) : Flags :=
  if f.has c then f else ⟨f.letters ++ [c]⟩

def union (f g : Flags) : Flags :=
  g.letters.foldl add f

/-- Modes of `g` are switched off. -/
def without (f g : Flags) : Flags :=
  ⟨f.letters.filter fun c => !g.has c⟩

def meets (f g : Flags) : Bool :=
  f.letters.any g.has

/-- The letters that may stand in an inline group. -/
def known : List Char := ['i', 'L', 'm', 's', 'x', 'a', 't', 'u']

/-- Letters that choose the character classes; at most one of them holds. -/
def isClassChoice (c : Char) : Bool :=
  c == 'a' || c == 'L' || c == 'u'

/-- The modes inside a group that switches `on` and `off`. -/
def within (f on off : Flags) : Flags :=
  let f := if on.letters.any isClassChoice then ⟨f.letters.filter fun c => !isClassChoice c⟩ else f
  (f.union on).without off

end Flags

end BoundaryLint.Regex
