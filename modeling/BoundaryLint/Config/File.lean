import BoundaryLint.Config.Schema
import BoundaryLint.Text.Utf8
import BoundaryLint.Yaml.Value

/-!
# Loading a configuration

A configuration is given ready, as data, or as a file. What the bytes of a file hold is up to a
loader of documents, and all that follows takes the loader as it is. The one that is given here
decodes all bytes before it reads a document, sets no limit to the depth of a document and does not
say what is wrong with one that is not well formed.
-/
namespace BoundaryLint.Config

/-- The names under which a configuration file is looked for, in this order. -/
def fileNames : List String :=
  ["archlint.yml", "archlint.yaml", ".archlint.yml"]

/-- Why the content of a configuration file is refused. -/
inductive FileError where
  | document (e : Yaml.Error)
  | data (e : Error)
  deriving Repr

namespace FileError

/-- The message about the file with a name, `none` if it is left open. -/
def message? (name : String) : FileError → Option String
  | .document (.invalid problem) =>
    some (name ++ ": invalid YAML" ++ (problem.map (": " ++ ·)).getD "")
  | .document e => e.message?
  | .data e => some e.message

/-- Whether an error is raised past those who report a refused configuration. -/
def escapes : FileError → Bool
  | .document e => e.escapes
  | .data e => e.escapes

end FileError

/-- One line break for each of `\r\n`, `\r` and `\n`. -/
def uniformBreaks : List Char → List Char
  | '\r' :: '\n' :: cs => '\n' :: uniformBreaks cs
  | '\r' :: cs => '\n' :: uniformBreaks cs
  | c :: cs => c :: uniformBreaks cs
  | [] => []

/-- A way to read the document in the bytes of a file. -/
abbrev Loader := Text.Utf8.Bytes → Except Yaml.Error Value

/-- Reads a document in UTF-8. Every kind of line break in it counts as one and the same. -/
def Loader.utf8 : Loader := fun bytes =>
  match Text.Utf8.text? bytes with
  | none => .error .notText
  | some text => Yaml.load (uniformBreaks text)

/-- The configuration in the bytes of a file. -/
def ofBytes (registry : Registry) (loader : Loader) (bytes : Text.Utf8.Bytes) :
    Except FileError Config :=
  match loader bytes with
  | .error e => .error (.document e)
  | .ok data => (Config.ofValue registry data).mapError .data

/-- Where a configuration comes from. A file has a path, a name and, if it can be read, bytes. -/
inductive Origin where
  | ready (c : Config)
  | data (v : Value)
  | file (path name : String) (content : Except String Text.Utf8.Bytes)

/-- Why there is no configuration. -/
inductive LoadError where
  | data (e : Error)
  | unreadable (path reason : String)
  | file (name : String) (e : FileError)
  deriving Repr

namespace LoadError

def message? : LoadError → Option String
  | .data e => some e.message
  | .unreadable path reason => some ("Cannot read configuration " ++ path ++ ": " ++ reason)
  | .file name e => e.message? name

/-- Whether an error is raised past those who report a refused configuration. -/
def escapes : LoadError → Bool
  | .data e => e.escapes
  | .unreadable _ _ => false
  | .file _ e => e.escapes

end LoadError

/-- The configuration from an origin. One that is ready is taken as it is. -/
def Origin.load (registry : Registry) (loader : Loader) : Origin → Except LoadError Config
  | .ready c => .ok c
  | .data v => (Config.ofValue registry v).mapError .data
  | .file path _ (.error reason) => .error (.unreadable path reason)
  | .file _ name (.ok bytes) => (ofBytes registry loader bytes).mapError (.file name)

end BoundaryLint.Config
