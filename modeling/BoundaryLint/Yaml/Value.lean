import BoundaryLint.Yaml.Node.Parser
import BoundaryLint.Yaml.Node.Value

/-!
# Loading a document
-/
namespace BoundaryLint.Yaml

/-- The document that a text writes; nothing if the text is empty. -/
def Document.ofText (text : List Char) : Except Fault (Option Document) := do
  let tokens ← orMalformed (Token.ofText? text)
  Document.ofTokens tokens

/-- The value of a document, if it passes the check. -/
def Document.loaded (d : Document) : Except Error Value :=
  d.checked.map fun _ => d.value

/-- The value that a text writes; nothing if it is empty. -/
def load (text : List Char) : Except Error Value :=
  match Document.ofText text with
  | .error .malformed => .error (.invalid none)
  | .error (.beyondCodes n) => .error (.beyondCodes n)
  | .ok none => .ok .null
  | .ok (some d) => d.loaded

end BoundaryLint.Yaml
