import BoundaryLint.Regex.Match
import BoundaryLint.Selector.Basic
import BoundaryLint.Tree.Access

/-!
# Matching selectors

A path leads from a node along fields. A step first tries a field of the tree, under its ESTree name
too, and then the readings `name`, `value`, `type` and `text` of the node itself. An attribute that
is absent satisfies `!=` and nothing else.
-/
namespace BoundaryLint

namespace Selector

/-- Fields by their ESTree names. -/
def fieldAliases : List (String × String) :=
  [("callee", "function"), ("init", "value"), ("id", "name"), ("test", "condition"),
   ("discriminant", "value")]

/-- What a path leads to: a node, or a text that leads no further. -/
inductive Target where
  | node (n : Node)
  | text (s : String)
  deriving Repr

end Selector

open Selector (Target)

namespace Source

/-- One step of a path. -/
def step? (s : Source) (n : Node) (name : String) : Option Target :=
  match n.child? ((Selector.fieldAliases.lookup name).getD name) with
  | some c => some (.node c)
  | none =>
    match name with
    | "name" => if Kind.isIdentifier n.kind then some (.text (s.text n)) else none
    | "value" => if Kind.isLiteral n.kind then some (.text (s.literal n)) else none
    | "type" => some (.text n.kind)
    | "text" => some (.text (s.text n))
    | _ => none

/-- The text of the node at the end of a path. -/
def endText (s : Source) (n : Node) : String :=
  if Kind.isLiteral n.kind then s.literal n
  else if !n.named then n.kind
  else s.text n

def follow? (s : Source) : List String → Target → Option String
  | [], .text t => some t
  | [], .node n => some (s.endText n)
  | _ :: _, .text _ => none
  | name :: names, .node n => (s.step? n name).bind (s.follow? names)

/-- The text that a path leads to from a node, if it leads anywhere. -/
def resolve? (s : Source) (n : Node) (path : List String) : Option String :=
  s.follow? path (.node n)

end Source

namespace Selector

def Operand.accepts (o : Operand) (t : String) : Bool :=
  match o with
  | .text s => t == s
  | .pattern p => p.search t.toList

def Attribute.accepts (a : Attribute) (s : Source) (n : Node) : Bool :=
  match s.resolve? n a.path, a.test with
  | none, .differs _ => true
  | none, _ => false
  | some _, .present => true
  | some t, .equals o => o.accepts t
  | some t, .differs o => !o.accepts t

def KindSpec.accepts (k : KindSpec) (n : Node) : Bool :=
  k.types.contains n.kind &&
    match k.operators with
    | none => true
    | some ops => (n.child? "operator").any fun o => ops.contains o.kind

def Compound.accepts (c : Compound) (s : Source) (n : Node) : Bool :=
  c.kind.all (·.accepts n) && c.attributes.all (·.accepts s n)

/-- Whether some ancestor satisfies `p`, which is also given the ancestors above it. -/
def someAncestor (p : Node → List Node → Bool) : List Node → Bool
  | [] => false
  | a :: outer => p a outer || someAncestor p outer

/-- Whether the ancestors satisfy the compounds around a node, from the nearest outwards. -/
def contextAccepts (s : Source) : List (Combinator × Compound) → List Node → Bool
  | [], _ => true
  | (.child, c) :: context, ancestors =>
    match ancestors with
    | [] => false
    | a :: outer => c.accepts s a && contextAccepts s context outer
  | (.descendant, c) :: context, ancestors =>
    someAncestor (fun a outer => c.accepts s a && contextAccepts s context outer) ancestors

def Complex.accepts (x : Complex) (s : Source) (site : Site) : Bool :=
  x.outward.1.accepts s site.node && contextAccepts s x.outward.2 site.ancestors

/-- Whether a node in its tree satisfies some alternative. -/
def accepts (x : Selector) (s : Source) (site : Site) : Bool :=
  x.alternatives.any (·.accepts s site)

end Selector

end BoundaryLint
