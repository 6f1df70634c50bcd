import BoundaryLint.Regex.Error

/-!
# Why a text is no selector
-/
namespace BoundaryLint.Selector

/-- A cause for which a text is refused. -/
inductive Reason where
  | notText
  | empty
  | unexpectedChar (c : Char)
  | unexpectedEnd
  | unknownKind (name : String)
  | expectedName
  | expectedBracket
  | expectedValue
  | unterminatedText
  | unterminatedPattern
  | badPattern (body : List Char) (e : Regex.Error)
  deriving DecidableEq, Repr

def Reason.message : Reason → String
  | .notText => "selector must be a string"
  | .empty => "empty selector"
  | .unexpectedChar c => "unexpected character " ++ Text.quoted c.toString
  | .unexpectedEnd => "unexpected end"
  | .unknownKind name => "unknown node kind '" ++ name ++ "'"
  | .expectedName => "expected attribute name"
  | .expectedBracket => "expected ']'"
  | .expectedValue => "expected attribute value"
  | .unterminatedText => "unterminated string"
  | .unterminatedPattern => "unterminated regular expression"
  | .badPattern body e => "invalid regular expression: " ++ e.message body

/-- A refused selector and the position of the fault. -/
structure Error where
  selector : String
  position : Nat
  reason : Reason
  deriving DecidableEq, Repr

def Error.message (e : Error) : String :=
  "Invalid selector " ++ Text.quoted e.selector ++ s!" at position {e.position}: " ++
    e.reason.message

/-- Whether an error is raised past those who report refused selectors. The limits of the pattern
reader are such errors. -/
def Error.escapes (e : Error) : Bool :=
  match e.reason with
  | .badPattern _ .repetitionTooLarge => true
  | .badPattern _ .classChoiceConflict => true
  | .badPattern _ (.tooManyDigits _) => true
  | _ => false

end BoundaryLint.Selector
