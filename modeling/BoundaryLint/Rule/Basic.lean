import BoundaryLint.Diagnostic.Basic
import BoundaryLint.Selector.Error
import BoundaryLint.Selector.Match
import BoundaryLint.Value.Basic

/-!
# Rules

A rule has an id, a description, a reader for its options and a check of one parsed file. An entry
is a rule as a block of the configuration sets it. A check may crash, which is a result like others.
-/
namespace BoundaryLint

/-- An import that is banned by its exact module specifier. -/
structure BannedImport where
  specifier : String
  message : String
  deriving DecidableEq, Repr

/-- Syntax that is banned by a selector. -/
structure BannedSyntax where
  selector : Selector
  message : String
  deriving DecidableEq, Repr

/-- What the options of a rule were read as. -/
inductive Options where
  | none
  | imports (banned : List BannedImport)
  | selectors (banned : List BannedSyntax)
  deriving DecidableEq, Repr, Inhabited

/-- A rule as one block sets it. -/
structure Entry where
  ruleId : String
  severity : Severity
  options : Options := .none
  blockIndex : Int := 0
  blockName : String := ""
  deriving DecidableEq, Repr

/-- Why options are refused. -/
inductive OptionFault where
  | notAccepted (ruleId : String)
  | pathsNotList
  | pathWithoutName
  | pathMessageNotText (specifier : String)
  | pathOfKind (kind : String)
  | emptySpecifier
  | noPaths (ruleId : String)
  | selectorsNotList
  | selectorNotText
  | selectorMessageNotText (selector : String)
  | selectorOfOtherKind
  | noSelectors (ruleId : String)
  | badSelector (e : Selector.Error)
  deriving DecidableEq, Repr

/-- The text of a fault; `context` says where the options stand. -/
def OptionFault.message (context : String) : OptionFault → String
  | .notAccepted id => context ++ ": rule '" ++ id ++ "' does not accept options"
  | .pathsNotList => context ++ ": 'paths' must be a list"
  | .pathWithoutName => context ++ ": each path needs a string 'name'"
  | .pathMessageNotText s => context ++ ": message for '" ++ s ++ "' must be a string"
  | .pathOfKind k => context ++ ": path entries must be strings or mappings, got " ++ k
  | .emptySpecifier => context ++ ": import specifier must be non-empty"
  | .noPaths id => context ++ ": '" ++ id ++ "' needs at least one banned path"
  | .selectorsNotList => context ++ ": 'selectors' must be a list"
  | .selectorNotText => context ++ ": each selector entry needs a string 'selector'"
  | .selectorMessageNotText s =>
    context ++ ": message for selector '" ++ s ++ "' must be a string"
  | .selectorOfOtherKind => context ++ ": selector entries must be strings or mappings"
  | .noSelectors id => context ++ ": '" ++ id ++ "' needs at least one selector"
  | .badSelector e => e.message

/-- Whether a fault is raised past those who report refused options. -/
def OptionFault.escapes : OptionFault → Bool
  | .badSelector e => e.escapes
  | _ => false

/-- How a check crashed, as logs show it. -/
structure Crash where
  shown : String
  deriving DecidableEq, Repr

/-- A rule. Its display name is shown when its id is missing. -/
structure Rule where
  id : String
  description : String
  display : Option String := none
  readOptions : List Value → Except OptionFault Options
  check : Source → Entry → Except Crash (List Diagnostic)

/-- A diagnostic at the start of a node. -/
def Source.report (s : Source) (n : Node) (e : Entry) (message : String) : Diagnostic :=
  let (line, column) := s.position n
  { file := s.path, line, column, ruleId := e.ruleId, severity := e.severity, message }

/-- A rule that judges nodes of certain kinds one by one and takes no options. -/
structure NodeRule where
  id : String
  name : String
  description : String
  message : String
  kinds : List String
  flags : Source → Site → Bool

namespace NodeRule

/-- The sites that a rule flags, in document order. -/
def flagged (r : NodeRule) (s : Source) : List Site :=
  s.sites.filter fun t => r.kinds.contains t.node.kind && r.flags s t

/-- A rule without options refuses any. -/
def readNoOptions (id : String) (raw : List Value) : Except OptionFault Options :=
  if raw.isEmpty then .ok .none else .error (.notAccepted id)

def rule (r : NodeRule) : Rule where
  id := r.id
  description := r.description
  display := some (r.name ++ "(" ++ Text.quoted r.id ++ ")")
  readOptions := readNoOptions r.id
  check := fun s e => .ok ((r.flagged s).map fun t => s.report t.node e r.message)

end NodeRule

end BoundaryLint
