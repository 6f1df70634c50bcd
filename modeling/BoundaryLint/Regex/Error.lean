import BoundaryLint.Number.Integer
import BoundaryLint.Text.Quoted

/-!
# Why a text is no regular expression

Every cause has one wording. Most causes have a position, which is shown with line and column when
the text has several lines.
-/
namespace BoundaryLint.Regex

/-- A cause for which a text is refused. -/
inductive Reason where
  | danglingBackslash
  | incompleteEscape (escape : String)
  | badEscape (escape : String)
  | octalTooLarge (escape : String)
  | missingBrace
  | missingName (what : String)
  | unterminatedName (close : String)
  | undefinedCharacter (name : String)
  | openGroupReference
  | lookbehindGroupReference
  | invalidGroupReference (index : Nat)
  | badGroupNumber
  | badGroupName (name : String)
  | unknownGroupName (name : String)
  | redefinedGroup (name : String) (index was : Nat)
  | unterminatedSet
  | badRange (lo hi : String)
  | nothingToRepeat
  | multipleRepeat
  | minAboveMax
  | unexpectedEnd
  | unknownExtension (text : String)
  | unterminatedComment
  | unterminatedGroup
  | tooManyBranches
  | lateGlobalFlags
  | unbalancedParenthesis
  | localeFlag
  | conflictingFlags
  | missingFlagEnd
  | unknownFlag
  | missingFlag
  | missingColon
  | globalFlagOn
  | globalFlagOff
  | classFlagOff
  | flagOnAndOff
  deriving DecidableEq, Repr

def Reason.message : Reason → String
  | .danglingBackslash => "bad escape (end of pattern)"
  | .incompleteEscape e => "incomplete escape " ++ e
  | .badEscape e => "bad escape " ++ e
  | .octalTooLarge e => "octal escape value " ++ e ++ " outside of range 0-0o377"
  | .missingBrace => "missing \x7b"
  | .missingName what => "missing " ++ what
  | .unterminatedName close => "missing " ++ close ++ ", unterminated name"
  | .undefinedCharacter n => "undefined character name " ++ Text.quoted n
  | .openGroupReference => "cannot refer to an open group"
  | .lookbehindGroupReference => "cannot refer to group defined in the same lookbehind subpattern"
  | .invalidGroupReference i => s!"invalid group reference {i}"
  | .badGroupNumber => "bad group number"
  | .badGroupName n => "bad character in group name " ++ Text.quoted n
  | .unknownGroupName n => "unknown group name " ++ Text.quoted n
  | .redefinedGroup n i was =>
    "redefinition of group name " ++ Text.quoted n ++ s!" as group {i}; was group {was}"
  | .unterminatedSet => "unterminated character set"
  | .badRange lo hi => "bad character range " ++ lo ++ "-" ++ hi
  | .nothingToRepeat => "nothing to repeat"
  | .multipleRepeat => "multiple repeat"
  | .minAboveMax => "min repeat greater than max repeat"
  | .unexpectedEnd => "unexpected end of pattern"
  | .unknownExtension t => "unknown extension ?" ++ t
  | .unterminatedComment => "missing ), unterminated comment"
  | .unterminatedGroup => "missing ), unterminated subpattern"
  | .tooManyBranches => "conditional backref with more than two branches"
  | .lateGlobalFlags => "global flags not at the start of the expression"
  | .unbalancedParenthesis => "unbalanced parenthesis"
  | .localeFlag => "bad inline flags: cannot use 'L' flag with a str pattern"
  | .conflictingFlags => "bad inline flags: flags 'a', 'u' and 'L' are incompatible"
  | .missingFlagEnd => "missing -, : or )"
  | .unknownFlag => "unknown flag"
  | .missingFlag => "missing flag"
  | .missingColon => "missing :"
  | .globalFlagOn => "bad inline flags: cannot turn on global flag"
  | .globalFlagOff => "bad inline flags: cannot turn off global flag"
  | .classFlagOff => "bad inline flags: cannot turn off flags 'a', 'u' and 'L'"
  | .flagOnAndOff => "bad inline flags: flag turned on and off"

/-- Why a text is no regular expression. -/
inductive Error where
  | malformed (reason : Reason) (pos : Nat)
  | variableLookbehind
  | farLookbehind
  | forbiddenRepetition (greed : String)
  | repetitionTooLarge
  | classChoiceConflict
  | tooManyDigits (count : Nat)
  deriving DecidableEq, Repr

/-- Line and column of a position, both counted from one. -/
def lineColumn (text : List Char) (pos : Nat) : Nat × Nat :=
  let front := text.take pos
  (front.count '\n' + 1, (front.reverse.takeWhile (· != '\n')).length + 1)

def Error.message (text : List Char) : Error → String
  | .malformed reason pos =>
    let place := s!"{reason.message} at position {pos}"
    if text.contains '\n' then
      let (line, column) := lineColumn text pos
      place ++ s!" (line {line}, column {column})"
    else place
  | .variableLookbehind => "look-behind requires fixed-width pattern"
  | .farLookbehind => "looks too much behind"
  | .forbiddenRepetition greed => "internal: unsupported template operator " ++ greed
  | .repetitionTooLarge => "the repetition number is too large"
  | .classChoiceConflict => "ASCII and UNICODE flags are incompatible"
  | .tooManyDigits n => Number.limitMessage (some n)

end BoundaryLint.Regex
