import BoundaryLint.Rule.FileOpen
import BoundaryLint.Rule.LocalStorage
import BoundaryLint.Rule.NavigationState
import BoundaryLint.Rule.PathSeparator
import BoundaryLint.Rule.PlatformCheck
import BoundaryLint.Rule.RestrictedSyntax
import BoundaryLint.Rule.SourceAuth

/-!
# The registry of rules

Rules are found by their ids. The order of registration is the order in which they are listed.
-/
namespace BoundaryLint

/-- The registered rules; no two have the same id. -/
structure Registry where
  rules : List Rule := []

namespace Registry

/-- Why a rule cannot be registered. -/
inductive Error where
  | noId (display : String)
  | duplicate (id : String)
  deriving DecidableEq, Repr

def Error.message : Error → String
  | .noId display => "Rule module " ++ display ++ " has no rule_id"
  | .duplicate id => "Duplicate rule id '" ++ id ++ "' registered"

def get? (r : Registry) (id : String) : Option Rule :=
  r.rules.find? fun m => m.id == id

def contains (r : Registry) (id : String) : Bool :=
  (r.get? id).isSome

/-- Whether a value is the id of a rule. -/
def containsKey (r : Registry) (v : Value) : Except Value.NotAKey Bool :=
  v.asKey.map fun
    | .str id => r.contains id
    | _ => false

def ids (r : Registry) : List String :=
  r.rules.map (·.id)

/-- Adds a rule at the end. -/
def register (r : Registry) (m : Rule) : Except Error Registry :=
  if Text.isBlankText m.id then .error (.noId (m.display.getD m.id))
  else if r.contains m.id then .error (.duplicate m.id)
  else .ok ⟨r.rules ++ [m]⟩

def ofRules (rules : List Rule) : Except Error Registry :=
  rules.foldlM register {}

/-- Puts a rule in the place of the one with its id, or at the end. -/
def replace (r : Registry) (m : Rule) : Registry :=
  if r.contains m.id then ⟨r.rules.map fun x => if x.id == m.id then m else x⟩
  else ⟨r.rules ++ [m]⟩

/-- The registry with just the given ids, in this order and once each. -/
def restrict (r : Registry) (ids : List String) : Registry :=
  ⟨ids.eraseDups.filterMap r.get?⟩

/-- The built-in rules. -/
def builtin : Registry :=
  ⟨[RestrictedImports.rule, RestrictedSyntax.rule Kind.isKnown, NavigationState.rule.rule,
    LocalStorage.rule.rule, PlatformCheck.rule.rule, PathSeparator.rule.rule, FileOpen.rule.rule,
    SourceAuth.rule.rule]⟩

end Registry

end BoundaryLint
