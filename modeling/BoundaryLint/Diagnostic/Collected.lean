import BoundaryLint.Diagnostic.Basic

/-!
# Collected diagnostics

Diagnostics are handed in file by file. A file that is handed in again replaces what was there. The
order of handing in does not show in the results.
-/
namespace BoundaryLint

/-- The diagnostics of each file. -/
structure Collected where
  byFile : List (String × List Diagnostic) := []
  deriving Repr

namespace Collected

def empty : Collected := {}

/-- Sets the diagnostics of a file. -/
def put (file : String) (ds : List Diagnostic) :
    List (String × List Diagnostic) → List (String × List Diagnostic)
  | [] => [(file, ds)]
  | (f, es) :: rest => if f == file then (f, ds) :: rest else (f, es) :: put file ds rest

def add (c : Collected) (file : String) (ds : List Diagnostic) : Collected :=
  ⟨put file ds c.byFile⟩

def fileCount (c : Collected) : Nat :=
  c.byFile.length

/-- The files in ascending order, each with its diagnostics. -/
def sortedFiles (c : Collected) : List (String × List Diagnostic) :=
  c.byFile.mergeSort fun a b => !decide (b.1 < a.1)

/-- All diagnostics in the order of reports. -/
def results (c : Collected) : List Diagnostic :=
  Diagnostic.sort (c.sortedFiles.flatMap (·.2))

end Collected

end BoundaryLint
