/-!
# Globs

A glob is a sequence of pieces: a literal character, `?`, `*`, a character class, `**/`, a final
`**`, and braces with alternatives. Only the two forms of `**` cross directory boundaries. A glob is
matched as a regular expression, and each piece has its own text there.
-/
namespace BoundaryLint.Glob

/-- What a glob denotes; `κ` is what is known about a character class. -/
inductive Expr (κ : Type) where
  | nil
  | lit (c : Char)
  | one
  | star
  | cls (k : κ)
  | dirs
  | rest
  | cat (a b : Expr κ)
  | alt (a b : Expr κ)
  | brace (body : Expr κ)
  deriving DecidableEq, Repr

/-- The characters that the regular expression of a glob shows after a backslash. -/
def isSpecial (c : Char) : Bool :=
  ("()[]\x7b\x7d?*+-|^$\\.&~# \t\n\r\x0b\x0c".toList).contains c

/-- The regular expression of a glob whose classes are given by their bodies. -/
def Expr.text : Expr (List Char) → List Char
  | .nil => []
  | .lit c => if isSpecial c then ['\\', c] else [c]
  | .one => "[^/]".toList
  | .star => "[^/]*".toList
  | .cls body => '[' :: body ++ [']']
  | .dirs => "(?:[^/]*/)*".toList
  | .rest => ".*".toList
  | .cat a b => a.text ++ b.text
  | .alt a b => a.text ++ '|' :: b.text
  | .brace body => "(?:".toList ++ body.text ++ [')']

/-- The regular expression for whole paths. The dot takes line feeds too. -/
def Expr.wholeText (e : Expr (List Char)) : List Char :=
  "(?s:".toList ++ e.text ++ ")\\Z".toList

end BoundaryLint.Glob
