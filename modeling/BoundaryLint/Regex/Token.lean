/-!
# Tokens of a regular expression

A backslash and the character after it are one token. A backslash at the very end is no token, and
reading up to it is an error.
-/
namespace BoundaryLint.Regex

/-- A character, an escaped character, or a backslash with nothing after it. -/
inductive Token where
  | plain (c : Char)
  | escaped (c : Char)
  | dangling
  deriving DecidableEq, Repr

namespace Token

def text : Token → List Char
  | .plain c => [c]
  | .escaped c => ['\\', c]
  | .dangling => ['\\']

def width : Token → Nat
  | .escaped _ => 2
  | _ => 1

def ofChars : List Char → List Token
  | [] => []
  | ['\\'] => [.dangling]
  | '\\' :: c :: cs => .escaped c :: ofChars cs
  | c :: cs => .plain c :: ofChars cs

end Token

end BoundaryLint.Regex
