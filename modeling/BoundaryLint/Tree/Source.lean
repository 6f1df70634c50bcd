import BoundaryLint.Text.Utf8
import BoundaryLint.Tree.Kind
import BoundaryLint.Tree.Traversal

/-!
# Parsed source files

A parsed source is a project-relative path, the bytes of the file and its syntax tree. Positions are
lines and columns from one on, and a column counts characters.
-/
namespace BoundaryLint

open Text.Utf8 (Bytes)

/-- Why there is no usable tree of a file. -/
inductive ParseFault where
  | notInstalled (extension : String)
  | unsupported (what : String)
  | malformed
  deriving DecidableEq, Repr

def ParseFault.message : ParseFault → String
  | .notInstalled ext => "grammar for '" ++ ext ++ "' files is not installed"
  | .unsupported what => "unsupported file type '" ++ what ++ "'"
  | .malformed => "syntax error"

/-- A failure to parse a file, with the position to report it at. -/
structure ParseError where
  path : String
  fault : ParseFault
  line : Nat := 1
  column : Nat := 1
  deriving DecidableEq, Repr

namespace ParseError

def reason (e : ParseError) : String := e.fault.message

def message (e : ParseError) : String := e.path ++ ": " ++ e.reason

end ParseError

/-- What a parser makes of a file: the root of the tree, and whether the text was malformed. -/
structure Tree where
  root : Node
  hasError : Bool := false
  deriving Repr

/-- A parsed file. -/
structure Source where
  path : String
  content : Bytes
  root : Node
  deriving Repr

/-- The extension of the last part of a path: from its last dot on, unless that dot comes first. -/
def extensionOf (path : String) : String :=
  let name := (path.toList.reverse.takeWhile (· != '/')).reverse
  let tail := (name.reverse.takeWhile (· != '.')).reverse
  if tail.length + 1 < name.length then String.ofList ('.' :: tail) else ""

/-- Line and column of a byte offset, both counted from one. -/
def positionAt (content : Bytes) (offset : Nat) : Nat × Nat :=
  let front := content.take offset
  let lineFront := (front.reverse.takeWhile (· != 0x0a)).reverse
  (front.count 0x0a + 1, (Text.Utf8.text lineFront).length + 1)

namespace Source

/-- The text of a node. -/
def text (s : Source) (n : Node) : String :=
  String.ofList (Text.Utf8.text ((s.content.drop n.label.start).take (n.label.stop - n.label.start)))

/-- The position at which a node starts. -/
def position (s : Source) (n : Node) : Nat × Nat :=
  positionAt s.content n.label.start

end Source

namespace Node

def isError (n : Node) : Bool :=
  n.kind == Kind.error || n.label.missing

/-- The first error node or missing node in document order. -/
def firstError? (n : Node) : Option Node :=
  n.visited.find? (·.isError)

end Node

namespace Source

/-- Parses a file by its extension; the missing extensions are those without a dialect. The tree is
what the parser of the dialect makes of the content. -/
def parseWithout (missing : List String) (path : String) (content : Bytes) (tree : Tree) :
    Except ParseError Source :=
  let ext := extensionOf path
  if !Dialect.isSupported ext then
    .error { path, fault := .unsupported (if ext.isEmpty then path else ext) }
  else if missing.contains ext then .error { path, fault := .notInstalled ext }
  else if tree.hasError then
    let (line, column) := match tree.root.firstError? with
      | some n => positionAt content n.label.start
      | none => (1, 1)
    .error { path, fault := .malformed, line, column }
  else .ok { path, content, root := tree.root }

def parse (path : String) (content : Bytes) (tree : Tree) : Except ParseError Source :=
  parseWithout [] path content tree

/-- All sites of the tree in pre-order. -/
def sites (s : Source) : List Site :=
  Site.all s.root

end Source

end BoundaryLint
