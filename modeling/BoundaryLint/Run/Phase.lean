/-!
# The phases of a run
-/
namespace BoundaryLint

/-- Where a run stands. -/
inductive Phase where
  | idle
  | loading
  | analyzing
  | aggregating
  | done
  | failed
  deriving DecidableEq, Repr, Inhabited

def Phase.name : Phase → String
  | .idle => "idle"
  | .loading => "loading"
  | .analyzing => "analyzing"
  | .aggregating => "aggregating"
  | .done => "done"
  | .failed => "failed"

end BoundaryLint
