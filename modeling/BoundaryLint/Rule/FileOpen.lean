import BoundaryLint.Rule.Basic

/-!
# Opening files directly

Calls of the shell's primitives for opening files are flagged.
-/
namespace BoundaryLint.FileOpen

def primitives : List String := ["openPath", "showItemInFolder"]

/-- Whether the last two names of a chain are the shell and one of its primitives. -/
def isPrimitive (names : List String) : Bool :=
  match names.reverse with
  | last :: owner :: _ => primitives.contains last && owner == "shell"
  | _ => false

def flags (s : Source) (t : Site) : Bool :=
  (s.callee? t.node).any isPrimitive

def rule : NodeRule where
  id := "no-direct-file-open"
  name := "NoDirectFileOpen"
  description := "Open files through the link interceptor."
  message :=
    "Do not call shell.openPath() or shell.showItemInFolder() directly. " ++
      "Route file opens through the link interceptor so in-app preview can handle them."
  kinds := ["call_expression"]
  flags := flags

end BoundaryLint.FileOpen
