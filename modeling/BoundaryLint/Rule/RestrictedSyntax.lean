import BoundaryLint.Rule.RestrictedImports
import BoundaryLint.Selector.Parser

/-!
# Banned syntax

Every node that a banned selector matches is flagged, once for each such selector. A selector is
tried only on nodes of the kinds it can match. Which kinds are known depends on the grammars that
trees are built with.
-/
namespace BoundaryLint.RestrictedSyntax

def ruleId : String := "no-restricted-syntax"

/-- The message for banned syntax that has none of its own. -/
def defaultMessage (expression : String) : String :=
  "Using '" ++ expression ++ "' is not allowed."

/-- Banned syntax from the text of a selector and a message, given the kinds that are known. -/
def banned (known : String → Bool) (expression message : String) :
    Except OptionFault BannedSyntax :=
  match Selector.parseWith known expression with
  | .error e => .error (.badSelector e)
  | .ok selector =>
    .ok ⟨selector, if message.isEmpty then defaultMessage expression else message⟩

/-- Banned syntax from an entry of the options. -/
def readItem (known : String → Bool) : Value → Except OptionFault BannedSyntax
  | .str s => banned known s ""
  | .map _ es =>
    match Value.find? es "selector" with
    | some (.str s) =>
      match Value.find? es "message" with
      | none => banned known s ""
      | some (.str m) => banned known s m
      | some _ => .error (.selectorMessageNotText s)
    | _ => .error .selectorNotText
  | _ => .error .selectorOfOtherKind

/-- The banned syntax of one option: a list under `selectors`, or the option itself. -/
def readOption (known : String → Bool) : Value → Except OptionFault (List BannedSyntax)
  | .map _ es =>
    match Value.find? es "selectors" with
    | some (.list _ items) => items.mapM (readItem known)
    | some _ => .error .selectorsNotList
    | none => (readItem known (.map none es)).map fun b => [b]
  | v => (readItem known v).map fun b => [b]

def readOptions (known : String → Bool) (raw : List Value) : Except OptionFault Options :=
  match (raw.mapM (readOption known)).map List.flatten with
  | .error f => .error f
  | .ok [] => .error (.noSelectors ruleId)
  | .ok bs => .ok (.selectors bs)

/-- Whether a selector is worth trying on a node. -/
def isCandidate (types : Option (List String)) (n : Node) : Bool :=
  types.all (·.contains n.kind)

/-- The diagnostics of one node, in the order of the options. -/
def diagnosticsAt (bs : List (BannedSyntax × Option (List String))) (s : Source) (e : Entry)
    (t : Site) : List Diagnostic :=
  bs.filterMap fun (b, types) =>
    if isCandidate types t.node && b.selector.accepts s t then some (s.report t.node e b.message)
    else none

def diagnostics (bs : List BannedSyntax) (s : Source) (e : Entry) : List Diagnostic :=
  let subjects := bs.map fun b => (b, b.selector.subjectTypes)
  s.sites.flatMap (diagnosticsAt subjects s e)

def check (s : Source) (e : Entry) : Except Crash (List Diagnostic) :=
  match e.options with
  | .selectors bs => .ok (diagnostics bs s e)
  | _ => .error RestrictedImports.missingOptions

def rule (known : String → Bool) : Rule where
  id := ruleId
  description := "Ban syntax matched by structural selectors."
  readOptions := readOptions known
  check := check

end BoundaryLint.RestrictedSyntax
