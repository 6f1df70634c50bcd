import BoundaryLint.Diagnostic.Basic
import BoundaryLint.Number.Fixed

/-!
# Results of a run
-/
namespace BoundaryLint

open Number (Binary64)

/-- A time in milliseconds. -/
inductive Elapsed where
  | whole (n : Int)
  | float (x : Binary64)
  deriving DecidableEq, Repr, Inhabited

/-- The time in seconds, rounded to a double. -/
def Elapsed.seconds : Elapsed → Binary64
  | .whole n => .ofRatio (n < 0) n.natAbs 1000
  | .float x => x.divNat 1000

/-- What a run found. A partial run skipped files because it was cancelled. -/
structure Result where
  diagnostics : List Diagnostic := []
  filesAnalyzed : Int := 0
  filesSkipped : Int := 0
  rulesConfigured : Int := 0
  isPartial : Bool := false
  elapsed : Elapsed := .float .zero
  deriving Repr

namespace Result

def hasErrors (r : Result) : Bool :=
  Diagnostic.anyError r.diagnostics

/-- A run passes if it is complete and has no errors. -/
def passed (r : Result) : Bool :=
  !r.isPartial && !r.hasErrors

def errorCount (r : Result) : Nat :=
  r.diagnostics.countP Diagnostic.isError

def warningCount (r : Result) : Nat :=
  r.diagnostics.countP Diagnostic.isWarning

end Result

end BoundaryLint
