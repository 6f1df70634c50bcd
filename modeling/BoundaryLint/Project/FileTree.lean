import BoundaryLint.Project.Path
import BoundaryLint.Run.Inspection
import BoundaryLint.Text.Quoted

/-!
# Directory trees

A tree of directories and files without links. A place is found name by name, and each name but the
last has to be a directory.
-/
namespace BoundaryLint

/-- A file or a directory with its entries. -/
inductive FileTree where
  | file (f : SourceFile)
  | dir (entries : List (String × FileTree))
  deriving Repr, Inhabited

/-- Why a file cannot be opened. -/
inductive OpenFault where
  | notFound
  | notDirectory
  | isDirectory
  | nameTooLong
  deriving DecidableEq, Repr

/-- The text of a fault at a path. -/
def OpenFault.message (path : String) : OpenFault → String
  | .notFound => "[Errno 2] No such file or directory: " ++ Text.quoted path
  | .notDirectory => "[Errno 20] Not a directory: " ++ Text.quoted path
  | .isDirectory => "[Errno 21] Is a directory: " ++ Text.quoted path
  | .nameTooLong => "[Errno 36] File name too long: " ++ Text.quoted path

namespace FileTree

/-- The entry of a directory. -/
def child? (entries : List (String × FileTree)) (name : String) : Option FileTree :=
  (entries.find? fun e => e.1 == name).map (·.2)

/-- Entries with the tree under a name replaced or put at the end. -/
def putChild (name : String) (t : FileTree) : List (String × FileTree) → List (String × FileTree)
  | [] => [(name, t)]
  | (n, u) :: rest => if n == name then (n, t) :: rest else (n, u) :: putChild name t rest

/-- The tree with another one at the place that names lead to, and the directories on the way. -/
def insert (t : FileTree) : List String → FileTree → FileTree
  | [], _ => t
  | name :: names, .dir entries =>
    .dir (putChild name (t.insert names ((child? entries name).getD (.dir []))) entries)
  | name :: names, .file _ => .dir [(name, t.insert names (.dir []))]

/-- The tree without the place that names lead to. -/
def erase : List String → FileTree → FileTree
  | [name], .dir entries => .dir (entries.filter fun e => e.1 != name)
  | name :: names, .dir entries =>
    match child? entries name with
    | some t => .dir (putChild name (erase names t) entries)
    | none => .dir entries
  | _, t => t

/-- A place in a tree: the names that lead to it, the last one first, with the trees they lead to, and
the tree at the top. -/
structure Place where
  top : FileTree
  below : List (String × FileTree) := []

/-- The greatest number of bytes in a name. -/
def nameLimit : Nat := 255

/-- A path has fewer bytes than this. -/
def pathLimit : Nat := 4096

namespace Place

def tree (p : Place) : FileTree :=
  match p.below with
  | [] => p.top
  | (_, t) :: _ => t

/-- The names that lead to a place. -/
def names (p : Place) : List String :=
  (p.below.map (·.1)).reverse

/-- One name on. -/
def step (p : Place) (name : String) : Except OpenFault Place :=
  match p.tree with
  | .file _ => .error .notDirectory
  | .dir entries =>
    if name == ".." then .ok { p with below := p.below.tail }
    else if nameLimit < name.utf8ByteSize then .error .nameTooLong
    else
      match child? entries name with
      | none => .error .notFound
      | some t => .ok { p with below := (name, t) :: p.below }

end Place

/-- The place that a path leads to from a directory. -/
def locate (top : FileTree) (cwd : List String) (p : Path) : Except OpenFault Place :=
  if pathLimit ≤ p.text.utf8ByteSize then .error .nameTooLong
  else ((if p.absolute then [] else cwd) ++ p.names).foldlM Place.step { top }

/-- The place of a directory. -/
def directory? (top : FileTree) (cwd : List String) (p : Path) : Option Place :=
  match top.locate cwd p with
  | .ok place => match place.tree with
    | .dir _ => some place
    | .file _ => none
  | .error _ => none

def isDirectory (top : FileTree) (cwd : List String) (p : Path) : Bool :=
  (top.directory? cwd p).isSome

/-- The file that a path leads to. -/
def openFile (top : FileTree) (cwd : List String) (p : Path) : Except OpenFault SourceFile :=
  match top.locate cwd p with
  | .error f => .error f
  | .ok place => match place.tree with
    | .file f => .ok f
    | .dir _ => .error .isDirectory

/-- The place of a file. -/
def file? (top : FileTree) (cwd : List String) (p : Path) : Option Place :=
  match top.locate cwd p with
  | .ok place => match place.tree with
    | .file _ => some place
    | .dir _ => none
  | .error _ => none

def isFile (top : FileTree) (cwd : List String) (p : Path) : Bool :=
  (top.file? cwd p).isSome

end FileTree

end BoundaryLint
