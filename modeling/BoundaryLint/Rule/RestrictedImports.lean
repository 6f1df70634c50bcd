import BoundaryLint.Rule.Basic
import BoundaryLint.Text.Blank

/-!
# Banned imports

An import or a re-export is flagged when its source is exactly a banned module specifier, however
the names are bound.
-/
namespace BoundaryLint

namespace Node

/-- The source of an import or of a re-export. -/
def importSource? (n : Node) : Option Node :=
  if n.kind == "import_statement" then
    match n.child? "source" with
    | some c => some c
    | none =>
      (n.namedChildren.find? fun c => c.kind == "import_require_clause").bind (·.child? "source")
  else if n.kind == "export_statement" then n.child? "source"
  else none

end Node

namespace RestrictedImports

def ruleId : String := "no-restricted-imports"

/-- The message for a banned import that has none of its own. -/
def defaultMessage (specifier : String) : String :=
  "'" ++ specifier ++ "' import is restricted from being used."

/-- A banned import from its specifier and its message. -/
def banned (specifier message : String) : Except OptionFault BannedImport :=
  if Text.isBlankText specifier then .error .emptySpecifier
  else .ok ⟨specifier, if message.isEmpty then defaultMessage specifier else message⟩

/-- A banned import from an entry of the options. -/
def readItem : Value → Except OptionFault BannedImport
  | .str s => banned s ""
  | .map _ es =>
    match (Value.find? es "name").or (Value.find? es "specifier") with
    | some (.str s) =>
      match Value.find? es "message" with
      | none => banned s ""
      | some (.str m) => banned s m
      | some _ => .error (.pathMessageNotText s)
    | _ => .error .pathWithoutName
  | v => .error (.pathOfKind v.kindName)

/-- The banned imports of one option: a list under `paths`, or the option itself. -/
def readOption : Value → Except OptionFault (List BannedImport)
  | .map _ es =>
    match Value.find? es "paths" with
    | some (.list _ items) => items.mapM readItem
    | some _ => .error .pathsNotList
    | none => (readItem (.map none es)).map fun b => [b]
  | v => (readItem v).map fun b => [b]

def readOptions (raw : List Value) : Except OptionFault Options :=
  match (raw.mapM readOption).map List.flatten with
  | .error f => .error f
  | .ok [] => .error (.noPaths ruleId)
  | .ok bs => .ok (.imports bs)

/-- The message of the first banned import with the specifier. -/
def messageFor? (bs : List BannedImport) (specifier : String) : Option String :=
  (bs.find? fun b => b.specifier == specifier).map (·.message)

/-- One diagnostic for each import or re-export of a banned specifier. -/
def diagnostics (bs : List BannedImport) (s : Source) (e : Entry) : List Diagnostic :=
  s.root.preorder.filterMap fun n =>
    n.importSource?.bind fun src => (messageFor? bs (s.literal src)).map (s.report n e)

/-- The crash of a check without the options it needs. -/
def missingOptions : Crash := ⟨"TypeError(\"'NoneType' object is not iterable\")"⟩

def check (s : Source) (e : Entry) : Except Crash (List Diagnostic) :=
  match e.options with
  | .imports bs => .ok (diagnostics bs s e)
  | _ =>
    if s.root.preorder.any fun n => n.importSource?.isSome then .error missingOptions else .ok []

def rule : Rule where
  id := ruleId
  description := "Ban imports of specific module specifiers."
  readOptions := readOptions
  check := check

end RestrictedImports

end BoundaryLint
