import BoundaryLint.Yaml.Property

/-!
# Tokens

A key without `?` is only known by the colon after it. Where such a key may start, a slot is left
among the tokens, and the slots are settled when all tokens are known.
-/
namespace BoundaryLint.Yaml

/-- What a token is. -/
inductive TokenKind where
  | documentStart
  | documentEnd
  | streamEnd
  | directive (d : Directive)
  | sequenceStart
  | mappingStart
  | blockEnd
  | openList
  | closeList
  | openMap
  | closeMap
  | item
  | comma
  | key
  | value
  | alias (name : String)
  | anchor (name : String)
  | tag (t : WrittenTag)
  | scalar (text : String) (plain : Bool)
  | slot (number : Nat)
  /-- The end of the tokens before a text in quotes with an escape beyond the code points. -/
  | beyondCodes (code : Nat)
  deriving DecidableEq, Repr

/-- A token and the line on which it starts. -/
structure Token where
  kind : TokenKind
  line : Nat
  deriving DecidableEq, Repr

/-- What became of a slot: a key, and whether it is the first of a mapping. -/
structure SettledSlot where
  number : Nat
  opens : Bool
  deriving DecidableEq, Repr

/-- The tokens in the place of a token: a settled slot becomes a key, another slot nothing. -/
def Token.settle (slots : List SettledSlot) (t : Token) : List Token :=
  match t.kind with
  | .slot n =>
    match slots.find? fun s => s.number == n with
    | some s =>
      if s.opens then [⟨.mappingStart, t.line⟩, ⟨.key, t.line⟩] else [⟨.key, t.line⟩]
    | none => []
  | _ => [t]

end BoundaryLint.Yaml
