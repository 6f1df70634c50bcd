import BoundaryLint.Regex.Charset
import BoundaryLint.Regex.Flags

/-!
# Regular expressions

The tree of a regular expression with captures, look-around, back references and the three kinds
of repetition. Modes are resolved into the leaves.
-/
namespace BoundaryLint.Regex

/-- A condition on a position. -/
inductive Anchor where
  | textStart
  | textEnd
  | finalEnd
  | lineStart
  | lineEnd
  | boundary (ascii negated : Bool)
  deriving DecidableEq, Repr

/-- The order in which a repetition tries its counts; a possessive one never gives back. -/
inductive Greed where
  | greedy
  | lazy
  | possessive
  deriving DecidableEq, Repr

/-- A regular expression. -/
inductive Node where
  | empty
  | char (code : Nat) (mode : CaseMode)
  | set (s : Charset) (mode : CaseMode)
  | any (dotAll : Bool)
  | anchor (a : Anchor)
  | seq (a b : Node)
  | alt (a b : Node)
  | group (body : Node)
  | capture (index : Nat) (body : Node)
  | loop (lo : Nat) (hi : Option Nat) (greed : Greed) (body : Node)
  | atomic (body : Node)
  | backref (index : Nat) (mode : CaseMode)
  | ifGroup (index : Nat) (yes no : Node)
  | ahead (negated : Bool) (body : Node)
  | behind (negated : Bool) (width : Nat) (body : Node)
  deriving DecidableEq, Repr

/-- A regular expression with its text and its modes. -/
structure Pattern where
  source : List Char
  flags : Flags
  root : Node
  deriving DecidableEq, Repr

end BoundaryLint.Regex
