import BoundaryLint.Rule.Basic

/-!
# Inline checks of a source's usability

A condition that reads two or more usability fields of a source is flagged, outside the one
predicate that decides usability. Of nested conditions only the outermost is considered.
-/
namespace BoundaryLint.SourceAuth

def predicate : String := "isSourceUsable"

def fields : List String :=
  ["enabled", "isAuthenticated", "authType", "needsAuth", "requiresAuth"]

def isLogical (n : Node) : Bool :=
  n.kind == "binary_expression" &&
    (n.child? "operator").any fun o => ["&&", "||"].contains o.kind

/-- The usability field of a source object that a node reads. -/
def fieldRead? (s : Source) (n : Node) : Option String :=
  match (s.chain? n).map List.reverse with
  | some (last :: owner :: owners) =>
    if fields.contains last &&
        (owner :: owners).any fun o => o == "config" || Text.holdsIgnoringCase "source" o then
      some last
    else none
  | _ => none

/-- The usability fields that are read in a tree, each once. -/
def fieldsRead (s : Source) (n : Node) : List String :=
  (n.preorder.filterMap fun c =>
    if c.kind == "member_expression" then fieldRead? s c else none).eraseDups

/-- Whether no logical expression is directly around a site, parentheses apart. -/
def isOutermost (ancestors : List Node) : Bool :=
  !(ancestors.dropWhile (·.kind == "parenthesized_expression")).head?.any isLogical

def flags (s : Source) (t : Site) : Bool :=
  isLogical t.node && isOutermost t.ancestors && 2 ≤ (fieldsRead s t.node).length &&
    s.enclosingFunction? t.ancestors != some predicate

def rule : NodeRule where
  id := "no-inline-source-auth-check"
  name := "NoInlineSourceAuthCheck"
  description := "Decide source usability with isSourceUsable()."
  message :=
    "Do not inspect source auth/enabled fields inline. " ++
      "Call isSourceUsable(source) so the usability logic lives in one place."
  kinds := ["binary_expression"]
  flags := flags

end BoundaryLint.SourceAuth
