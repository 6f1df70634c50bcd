import BoundaryLint.Selector.Parser

/-!
# Written selectors

A selector can be written in many ways: white space may stand at both ends of the text, around commas
and `>` and inside of brackets, kinds have names, any kind is written as a star or not at all, and
values may be quoted. A layout makes all these choices. It has a text, and it tells what the text
stands for. Layouts carry the conditions under which they can be written, so that each of them has a
meaning.
-/
namespace BoundaryLint.Selector.Layout

/-- White space, possibly empty. -/
structure Blanks where
  text : List Char
  blank : ∀ c ∈ text, Text.isBlank c = true

/-- A name: a letter, a low line or a dollar sign, and then digits too. -/
structure Name where
  first : Char
  others : List Char
  start : isNameStart first = true
  chars : ∀ c ∈ others, isNameChar c = true

def Name.text (n : Name) : List Char := n.first :: n.others

/-- A value in quotes that it does not contain, a word, or a regular expression with its modes. -/
inductive Value where
  | quoted (mark : Char) (content : List Char) (hmark : mark = '\'' ∨ mark = '"')
      (hcontent : mark ∉ content)
  | word (first : Char) (others : List Char)
      (hfirst : first ≠ '\'' ∧ first ≠ '"' ∧ first ≠ '/')
      (hchars : ∀ c ∈ first :: others, c ≠ ']' ∧ Text.isBlank c = false)
  | regex (body modes : List Char) (pattern : Regex.Pattern) (hslash : '/' ∉ body)
      (hend : body.getLast? ≠ some '\\') (hmodes : ∀ c ∈ modes, c = 'i' ∨ c = 'm' ∨ c = 's')
      (hpattern : Regex.Pattern.parse body (flagsOf modes) = .ok pattern)

namespace Value

def text : Value → List Char
  | quoted mark content _ _ => mark :: content ++ [mark]
  | word first others _ _ => first :: others
  | regex body modes _ _ _ _ _ => '/' :: body ++ '/' :: modes

def meaning : Value → Operand
  | quoted _ content _ _ => .text (String.ofList content)
  | word first others _ _ => .text (String.ofList (first :: others))
  | regex _ _ pattern _ _ _ _ => .pattern pattern

end Value

/-- A comparison with a value; `negated` writes `!=`. -/
structure Comparison where
  negated : Bool
  before : Blanks
  value : Value
  after : Blanks

namespace Comparison

def sign (x : Comparison) : List Char := if x.negated then ['!', '='] else ['=']

def text (x : Comparison) : List Char :=
  x.sign ++ (x.before.text ++ (x.value.text ++ x.after.text))

def meaning (x : Comparison) : Test :=
  if x.negated then .differs x.value.meaning else .equals x.value.meaning

end Comparison

/-- What stands in brackets: a path of names, and a comparison or none. -/
structure Attribute where
  before : Blanks
  head : Name
  tail : List Name
  after : Blanks
  comparison : Option Comparison

namespace Attribute

def pathText (x : Attribute) : List Char :=
  x.head.text ++ x.tail.flatMap fun n => '.' :: n.text

def testText (x : Attribute) : List Char :=
  (x.comparison.map (·.text)).getD []

def text (x : Attribute) : List Char :=
  '[' :: (x.before.text ++ (x.pathText ++ (x.after.text ++ (x.testText ++ [']']))))

def meaning (x : Attribute) : Selector.Attribute where
  path := (x.head :: x.tail).map fun n => String.ofList n.text
  test := (x.comparison.map (·.meaning)).getD .present

end Attribute

variable (known : String → Bool)

/-- A kind by a name that stands for one, a star, or nothing. -/
inductive Kind where
  | named (name : List Char) (spec : KindSpec) (hspec : kindSpec? known name = some spec)
  | star
  | omitted

/-- A compound; where no kind is written, there are attributes. -/
structure Compound where
  kind : Kind known
  attributes : List Attribute
  written : kind = .omitted → attributes ≠ []

/-- What stands between two compounds. White space alone must not be empty. -/
inductive Joint where
  | child (before after : Blanks)
  | descendant (blanks : Blanks) (hblanks : blanks.text ≠ [])

structure Complex where
  head : Compound known
  tail : List (Joint × Compound known)

end Layout

/-- Alternatives with commas between them; white space stands around the commas and at both ends. -/
structure Layout (known : String → Bool) where
  before : Layout.Blanks
  head : Layout.Complex known
  tail : List (Layout.Blanks × Layout.Blanks × Layout.Complex known)
  after : Layout.Blanks

namespace Layout
variable {known : String → Bool}

def Kind.text : Kind known → List Char
  | .named name _ _ => name
  | .star => ['*']
  | .omitted => []

def Kind.meaning : Kind known → Option KindSpec
  | .named _ spec _ => some spec
  | _ => none

namespace Compound

def text (x : Compound known) : List Char :=
  x.kind.text ++ x.attributes.flatMap (·.text)

def meaning (x : Compound known) : Selector.Compound where
  kind := x.kind.meaning
  attributes := x.attributes.map (·.meaning)

end Compound

def Joint.text : Joint → List Char
  | .child before after => before.text ++ '>' :: after.text
  | .descendant blanks _ => blanks.text

def Joint.meaning : Joint → Combinator
  | .child _ _ => .child
  | .descendant _ _ => .descendant

namespace Complex

def tailText (tail : List (Joint × Compound known)) : List Char :=
  tail.flatMap fun (joint, x) => joint.text ++ x.text

def text (x : Complex known) : List Char :=
  x.head.text ++ tailText x.tail

def meaning (x : Complex known) : Selector.Complex where
  head := x.head.meaning
  tail := x.tail.map fun (joint, y) => (joint.meaning, y.meaning)

end Complex

def tailText (tail : List (Blanks × Blanks × Complex known)) : List Char :=
  tail.flatMap fun (before, after, x) => before.text ++ ',' :: (after.text ++ x.text)

def text (x : Layout known) : List Char :=
  x.before.text ++ (x.head.text ++ (tailText x.tail ++ x.after.text))

def alternatives (x : Layout known) : List Selector.Complex :=
  x.head.meaning :: x.tail.map fun (_, _, y) => y.meaning

end Layout

end BoundaryLint.Selector
