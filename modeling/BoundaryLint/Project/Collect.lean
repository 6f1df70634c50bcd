import BoundaryLint.Config.File
import BoundaryLint.Project.FileTree

/-!
# Which files to analyze

A target is a file, a directory or a glob. A file that is named is taken whatever its extension. In a
directory, and for a glob in the whole project, all files with a supported extension are taken;
hidden directories and directories that the ignores cover are not entered.
-/
namespace BoundaryLint

/-- The extension of a file name: from its last dot on, unless only dots stand before it. -/
def fileExtension (name : String) : String :=
  let bare := name.toList.dropWhile (· == '.')
  let tail := (bare.reverse.takeWhile (· != '.')).reverse
  if tail.length < bare.length then String.ofList ('.' :: tail) else ""

/-- A project: the directory tree, the working directory and the path of the root, and how documents
are read. -/
structure Project where
  top : FileTree
  cwd : List String
  root : Path
  loader : Config.Loader := .utf8

/-- Why files cannot be collected. -/
inductive CollectError where
  | glob (e : Glob.Error)
  | nameTooLong (path : String)
  deriving Repr

namespace CollectError

def message : CollectError → String
  | .glob e => e.message
  | .nameTooLong path => OpenFault.nameTooLong.message path

/-- Whether an error is raised past those who report a refused configuration. -/
def escapes : CollectError → Bool
  | .glob _ => false
  | .nameTooLong _ => true

end CollectError

namespace Project

/-- The place of the root. -/
def place (p : Project) : List String :=
  p.root.resolve p.cwd

/-- A place as messages show it. -/
def shown (p : Project) (place : List String) : String :=
  relativeText p.place place

/-- Whether a directory is entered. -/
def enters (p : Project) (ignores : GlobSet) (place : List String) (name : String) : Bool :=
  name.toList.head? != some '.' && !ignores.covers (p.shown (place ++ [name]))

/-- The source files among the entries of a directory and below them, by the names that lead to
them. -/
def walkEntries (p : Project) (ignores : GlobSet) (place : List String) :
    List (String × FileTree) → List (List String)
  | [] => []
  | (name, .file _) :: rest =>
    let more := walkEntries p ignores place rest
    if Dialect.isSupported (fileExtension name) then (place ++ [name]) :: more else more
  | (name, .dir entries) :: rest =>
    let more := walkEntries p ignores place rest
    if p.enters ignores place name then walkEntries p ignores (place ++ [name]) entries ++ more
    else more

/-- The source files below a place. -/
def walk (p : Project) (ignores : GlobSet) (place : List String) : FileTree → List (List String)
  | .file _ => []
  | .dir entries => p.walkEntries ignores place entries

/-- The source files of a directory, none if there is no such directory. -/
def walkFrom (p : Project) (ignores : GlobSet) (path : Path) : List (List String) :=
  match p.top.directory? p.cwd path with
  | some d => p.walk ignores d.names d.tree
  | none => []

/-- The files of one target. -/
def targetFiles (p : Project) (ignores : GlobSet) (target : String) :
    Except CollectError (List (List String)) :=
  let path := p.root.join (.ofText target)
  match p.top.locate p.cwd path with
  | .ok place => match place.tree with
    | .file _ => .ok [place.names]
    | .dir _ => .ok (p.walk ignores place.names place.tree)
  | .error .nameTooLong => .error (.nameTooLong path.text)
  | .error _ => do
    let glob ← (Glob.ofText target).mapError .glob
    .ok ((p.walkFrom ignores p.root).filter fun f => glob.accepts (p.shown f))

/-- Places in the order of their whole texts and once each. -/
def inOrder (places : List (List String)) : List (List String) :=
  (places.mergeSort fun a b => !decide (placeText b < placeText a)).eraseDups

/-- The targets that are meant; no targets stand for the whole project. -/
def orRoot (targets : List String) : List String :=
  if targets.isEmpty then ["."] else targets

/-- The files of all targets, in order. -/
def collect (p : Project) (ignores : GlobSet) (targets : List String) :
    Except CollectError (List (List String)) := do
  let found ← (orRoot targets).mapM (p.targetFiles ignores)
  .ok (inOrder found.flatten)

end Project

end BoundaryLint
