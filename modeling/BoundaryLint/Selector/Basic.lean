import BoundaryLint.Regex.Basic

/-!
# Selectors

A selector is a list of alternatives. An alternative is a chain of compounds, joined by the child or
the descendant combinator, of which the last one speaks of the node itself. A compound asks for a
kind and for attributes of a node.
-/
namespace BoundaryLint.Selector

/-- The kinds of nodes that a kind name stands for. Some names also ask for an operator. -/
structure KindSpec where
  types : List String
  operators : Option (List String) := none
  deriving DecidableEq, Repr

/-- What an attribute is compared with. -/
inductive Operand where
  | text (s : String)
  | pattern (p : Regex.Pattern)
  deriving DecidableEq, Repr

/-- What is asked of an attribute. -/
inductive Test where
  | present
  | equals (o : Operand)
  | differs (o : Operand)
  deriving DecidableEq, Repr

/-- `[path]`, `[path=value]` or `[path!=value]`. -/
structure Attribute where
  path : List String
  test : Test
  deriving DecidableEq, Repr

/-- A kind, or any, and a conjunction of attributes. -/
structure Compound where
  kind : Option KindSpec
  attributes : List Attribute := []
  deriving DecidableEq, Repr

inductive Combinator where
  | child
  | descendant
  deriving DecidableEq, Repr

def Combinator.sign : Combinator → String
  | .child => ">"
  | .descendant => " "

/-- Compounds in the order of the text, each after the first with the combinator before it. -/
structure Complex where
  head : Compound
  tail : List (Combinator × Compound) := []
  deriving DecidableEq, Repr

namespace Complex

def compounds (x : Complex) : List Compound :=
  x.head :: x.tail.map (·.2)

def combinators (x : Complex) : List Combinator :=
  x.tail.map (·.1)

/-- The last compound, and the compounds before it from the nearest outwards, each with the
combinator after it. -/
def outward (x : Complex) : Compound × List (Combinator × Compound) :=
  x.tail.foldl (fun (subject, context) (m, c) => (c, (m, subject) :: context)) (x.head, [])

end Complex

end BoundaryLint.Selector

namespace BoundaryLint

/-- A selector with the text it was read from. -/
structure Selector where
  source : String
  alternatives : List Selector.Complex
  deriving DecidableEq, Repr

namespace Selector

/-- The kinds of nodes a selector can match, or nothing if every kind is possible. -/
def subjectTypes (s : Selector) : Option (List String) :=
  (s.alternatives.mapM fun x : Complex => x.outward.1.kind.map (·.types)).map List.flatten

end Selector

end BoundaryLint
