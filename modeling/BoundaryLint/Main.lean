import BoundaryLint.Project.Command
import BoundaryLint.Tree.Listing

/-!
# The program

Reads the directory tree below the working directory, runs the command line on it and prints what
comes of it. The tree of a source file `x` stands in the file `x.tree`.
-/
namespace BoundaryLint

/-- The file with a path, and its tree if there is a listing of it. -/
def readSource (path : String) : IO SourceFile := do
  let content := (← IO.FS.readBinFile path).toList
  let tree ← try pure (Tree.ofListing? (← IO.FS.readFile (path ++ ".tree"))) catch _ => pure none
  return { content, tree := tree.getD .unknown }

/-- The tree at an entry of a directory. Links and special files are left out. -/
partial def readEntry (e : IO.FS.DirEntry) : IO (Option (String × FileTree)) := do
  match (← e.path.symlinkMetadata).type with
  | .dir =>
    let entries ← (← e.path.readDir).toList.filterMapM readEntry
    return some (e.fileName, .dir entries)
  | .file => return some (e.fileName, .file (← readSource e.path.toString))
  | _ => return none

/-- How the program is used. -/
def usage : String :=
  "Usage: archlint [OPTIONS] COMMAND [ARGS]..."

/-- Prints the output of the program and gives its exit code. -/
def finish (code : Nat) (out err : String) : IO UInt32 := do
  (← IO.getStdout).putStr out
  (← IO.getStderr).putStr err
  return code.toUInt32

end BoundaryLint

open BoundaryLint in
def main (args : List String) : IO UInt32 := do
  let here ← IO.currentDir
  let cwd := (Path.ofText here.toString).names
  let entries ← (← here.readDir).toList.filterMapM readEntry
  let place : Command.Place :=
    { top := (FileTree.dir entries).insert cwd (.dir [])
      cwd
      terminal := ← (← IO.getStdout).isTty }
  let start ← IO.monoMsNow
  match ← IO.lazyPure fun _ => Command.run place {} args with
  | .usage => finish 2 "" (Command.line usage)
  | .exit code out err => finish code out err
  | .report r format =>
    let elapsed := (← IO.monoMsNow) - start
    let (code, out, err) := Command.reportExit { r with elapsed := .whole elapsed } format
    finish code out err
  | .raised e => finish 1 "" (Command.line (e.message?.getD "the configuration is not UTF-8"))
