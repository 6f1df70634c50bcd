import BoundaryLint.Regex.Error
import BoundaryLint.Value.Printer

/-!
# Why a value is no glob
-/
namespace BoundaryLint.Glob

/-- A fault in the structure of a glob. -/
inductive Fault where
  | partialStars
  | unterminatedClass
  | slashInClass
  | unclosedBrace
  | strayBrace
  deriving DecidableEq, Repr

def Fault.message (glob : String) : Fault → String
  | .partialStars => "'**' must be a whole path segment in glob '" ++ glob ++ "'"
  | .unterminatedClass => "Unterminated character class in glob '" ++ glob ++ "'"
  | .slashInClass => "Character class may not contain '/' in glob '" ++ glob ++ "'"
  | .unclosedBrace => "Unbalanced '\x7b' in glob '" ++ glob ++ "'"
  | .strayBrace => "Unbalanced '\x7d' in glob '" ++ glob ++ "'"

/-- Why a value is no glob. -/
inductive Error where
  | notText (v : Value)
  | absolute (glob : String)
  | fault (glob : String) (f : Fault)
  | badClass (glob : String) (text : List Char) (e : Regex.Error)
  deriving Repr

def Error.message : Error → String
  | .notText v => "Glob pattern must be a non-empty string, got " ++ v.shown
  | .absolute glob => "Glob '" ++ glob ++ "' must be relative to the project root"
  | .fault glob f => f.message glob
  | .badClass glob text e => "Invalid glob '" ++ glob ++ "': " ++ e.message text

end BoundaryLint.Glob
