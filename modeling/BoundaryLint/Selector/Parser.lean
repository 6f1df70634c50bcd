import BoundaryLint.Regex.Parser
import BoundaryLint.Selector.Error
import BoundaryLint.Selector.Kind
import BoundaryLint.Text.Blank
import BoundaryLint.Value.Printer

/-!
# Reading selectors

    selector   := complex ("," complex)*
    complex    := compound (combinator compound)*
    combinator := ">" | blanks
    compound   := (kind | "*")? attribute*
    attribute  := "[" path (("=" | "!=") value)? "]"
    path       := name ("." name)*
    value      := 'quoted' | "quoted" | /regex/flags | bareword

Readers take what is left of the text. A fault carries the number of characters that were left, which
gives its position in the whole text.
-/
namespace BoundaryLint.Selector

/-- A cause, and the number of characters left where it was found. -/
structure Fault where
  reason : Reason
  left : Nat
  deriving DecidableEq, Repr

/-- The outcome of reading: a result and what is left, or a fault. -/
abbrev Outcome (α : Type) := Except Fault (α × List Char)

/-- A fault at the front of `cs`. -/
def faultAt {α : Type} (cs : List Char) (reason : Reason) : Outcome α :=
  .error ⟨reason, cs.length⟩

def skipBlank (cs : List Char) : List Char :=
  cs.dropWhile Text.isBlank

def isNameStart (c : Char) : Bool :=
  c.isAlpha || c == '_' || c == '$'

def isNameChar (c : Char) : Bool :=
  c.isAlphanum || c == '_' || c == '$'

/-- The name at the front and what follows it. -/
def name? : List Char → Option (List Char × List Char)
  | [] => none
  | c :: cs =>
    if isNameStart c then some (c :: cs.takeWhile isNameChar, cs.dropWhile isNameChar) else none

/-- The text before the first `q` and what follows it. -/
def untilQuote (q : Char) : List Char → Option (List Char × List Char)
  | [] => none
  | c :: cs =>
    if c == q then some ([], cs) else (untilQuote q cs).map fun (t, r) => (c :: t, r)

/-- The text before the first slash that does not come right after a backslash, and what follows
the slash; `prev` is the character before the text. -/
def untilSlash (prev : Char) : List Char → Option (List Char × List Char)
  | [] => none
  | c :: cs =>
    if c == '/' && prev != '\\' then some ([], cs)
    else (untilSlash c cs).map fun (t, r) => (c :: t, r)

def isFlag (c : Char) : Bool :=
  c == 'i' || c == 'm' || c == 's'

/-- The modes that letters ask for. -/
def flagsOf (letters : List Char) : Regex.Flags :=
  letters.foldl Regex.Flags.add .none

def isBareChar (c : Char) : Bool :=
  c != ']' && !Text.isBlank c

/-- The value of an attribute. -/
def operandAt (cs : List Char) : Outcome Operand :=
  match cs with
  | '\'' :: rest =>
    match untilQuote '\'' rest with
    | some (t, r) => .ok (.text (String.ofList t), r)
    | none => faultAt cs .unterminatedText
  | '"' :: rest =>
    match untilQuote '"' rest with
    | some (t, r) => .ok (.text (String.ofList t), r)
    | none => faultAt cs .unterminatedText
  | '/' :: rest =>
    match untilSlash '/' rest with
    | none => faultAt cs .unterminatedPattern
    | some (body, r) =>
      let after := r.dropWhile isFlag
      match Regex.Pattern.parse body (flagsOf (r.takeWhile isFlag)) with
      | .ok p => .ok (.pattern p, after)
      | .error e => faultAt after (.badPattern body e)
  | _ =>
    match cs.takeWhile isBareChar with
    | [] => faultAt cs .expectedValue
    | word => .ok (.text (String.ofList word), cs.dropWhile isBareChar)

/-- Names with points between them. -/
def pathAt : Nat → List Char → Outcome (List String)
  | 0, cs => faultAt cs .expectedName
  | fuel + 1, cs =>
    match name? cs with
    | none => faultAt cs .expectedName
    | some (n, '.' :: rest) =>
      (pathAt fuel rest).map fun (ns, r) => (String.ofList n :: ns, r)
    | some (n, rest) => .ok ([String.ofList n], rest)

/-- The comparison that an attribute makes. -/
def testAt (cs : List Char) : Outcome Test :=
  match cs with
  | '!' :: '=' :: rest => (operandAt (skipBlank rest)).map fun (o, r) => (.differs o, skipBlank r)
  | '=' :: rest => (operandAt (skipBlank rest)).map fun (o, r) => (.equals o, skipBlank r)
  | _ => .ok (.present, cs)

/-- An attribute whose opening bracket has been taken. -/
def attributeAt (cs : List Char) : Outcome Attribute :=
  match pathAt (cs.length + 1) (skipBlank cs) with
  | .error f => .error f
  | .ok (p, rest) =>
    match testAt (skipBlank rest) with
    | .error f => .error f
    | .ok (t, ']' :: rest) => .ok ({ path := p, test := t }, rest)
    | .ok (_, rest) => faultAt rest .expectedBracket

/-- All attributes at the front. -/
def attributesAt : Nat → List Char → Outcome (List Attribute)
  | fuel + 1, '[' :: cs =>
    match attributeAt cs with
    | .error f => .error f
    | .ok (a, rest) => (attributesAt fuel rest).map fun (as, r) => (a :: as, r)
  | _, cs => .ok ([], cs)

/-- The kind at the front, if one is written, and what follows it. -/
def kindAt (known : String → Bool) (cs : List Char) : Outcome (Option KindSpec) :=
  match cs with
  | '*' :: rest => .ok (none, rest)
  | _ =>
    match name? cs with
    | none => .ok (none, cs)
    | some (n, rest) =>
      match kindSpec? known n with
      | some k => .ok (some k, rest)
      | none => faultAt cs (.unknownKind (String.ofList n))

/-- A compound, which is never empty. -/
def compoundAt (known : String → Bool) (cs : List Char) : Outcome Compound :=
  match kindAt known cs with
  | .error f => .error f
  | .ok (kind, rest) =>
    match attributesAt (rest.length + 1) rest with
    | .error f => .error f
    | .ok (as, rest) =>
      if rest.length == cs.length then
        match cs with
        | [] => faultAt cs .unexpectedEnd
        | c :: _ => faultAt cs (.unexpectedChar c)
      else .ok ({ kind, attributes := as }, rest)

/-- The combinator at the front: what separates two compounds of a chain. -/
def combinator (cs : List Char) : Option (Combinator × List Char) :=
  match skipBlank cs with
  | [] => none
  | '>' :: rest => some (.child, skipBlank rest)
  | c :: rest =>
    if (skipBlank cs).length < cs.length && c != ',' then some (.descendant, c :: rest) else none

/-- The compounds after the first. -/
def links (known : String → Bool) : Nat → List Char → Outcome (List (Combinator × Compound))
  | 0, cs => .ok ([], skipBlank cs)
  | fuel + 1, cs =>
    match combinator cs with
    | none => .ok ([], skipBlank cs)
    | some (m, rest) =>
      match compoundAt known rest with
      | .error f => .error f
      | .ok (c, rest) => (links known fuel rest).map fun (ls, r) => ((m, c) :: ls, r)

/-- A chain of compounds; blanks after it are taken too. -/
def complexAt (known : String → Bool) (cs : List Char) : Outcome Complex :=
  match compoundAt known cs with
  | .error f => .error f
  | .ok (c, rest) => (links known (rest.length + 1) rest).map fun (ls, r) => (⟨c, ls⟩, r)

/-- Chains with commas between them, up to the end of the text. -/
def alternativesOf (known : String → Bool) : Nat → List Char → Except Fault (List Complex)
  | 0, cs => .error ⟨.unexpectedEnd, cs.length⟩
  | fuel + 1, cs =>
    match complexAt known cs with
    | .error f => .error f
    | .ok (x, []) => .ok [x]
    | .ok (x, ',' :: rest) => (alternativesOf known fuel (skipBlank rest)).map (x :: ·)
    | .ok (_, c :: rest) => .error ⟨.unexpectedChar c, (c :: rest).length⟩

/-- Reads a selector, given the kinds that are known. -/
def parseWith (known : String → Bool) (s : String) : Except Error Selector :=
  let cs := s.toList
  let fail := fun f : Fault => Error.mk s (cs.length - f.left) f.reason
  match skipBlank cs with
  | [] => .error (fail ⟨.empty, 0⟩)
  | front =>
    match alternativesOf known (front.length + 1) front with
    | .ok alternatives => .ok { source := s, alternatives }
    | .error f => .error (fail f)

/-- Reads a selector of kinds of the supported dialects. -/
def parse (s : String) : Except Error Selector :=
  parseWith Kind.isKnown s

/-- Reads a selector from a configuration value, which must be a text. -/
def ofValueWith (known : String → Bool) : Value → Except Error Selector
  | .str s => parseWith known s
  | v => .error ⟨v.plain, 0, .notText⟩

end BoundaryLint.Selector
