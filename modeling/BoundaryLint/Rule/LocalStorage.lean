import BoundaryLint.Rule.Basic

/-!
# Direct use of the local storage

Accesses to `localStorage`, plain or as a member of a global object, are flagged.
-/
namespace BoundaryLint.LocalStorage

def storage : String := "localStorage"

def globalObjects : List String := ["window", "globalThis", "self"]

/-- Whether an expression is the plain identifier with one of the names. -/
def isIdentifierNamed (s : Source) (names : List String) (n : Node) : Bool :=
  n.kind == "identifier" && names.contains (s.text n)

def flags (s : Source) (t : Site) : Bool :=
  match (t.node.child? "object").map (·.unwrapped) with
  | none => false
  | some o =>
    isIdentifierNamed s [storage] o ||
      (t.node.kind == "member_expression" &&
        ((t.node.child? "property").any fun p => Kind.isIdentifier p.kind && s.text p == storage) &&
        isIdentifierNamed s globalObjects o)

def rule : NodeRule where
  id := "no-localstorage"
  name := "NoLocalStorage"
  description := "Persist data through the storage module, not localStorage."
  message :=
    "Avoid localStorage directly. Use the centralized storage module, " ++
      "which handles serialization, namespacing and migration."
  kinds := ["member_expression", "subscript_expression"]
  flags := flags

end BoundaryLint.LocalStorage
