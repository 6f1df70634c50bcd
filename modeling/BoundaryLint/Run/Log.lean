import BoundaryLint.Number.Fixed
import BoundaryLint.Run.Phase

/-!
# What a run logs
-/
namespace BoundaryLint

open Number (Binary64)

/-- A record of the log. -/
inductive Log where
  | phase (before after : Phase)
  | cancelRequested
  | ignoring (path : String)
  | unparsable (path reason : String)
  | unreadable (path : String)
  | notLoaded (path reason : String)
  | loadTrace
  | crashed (ruleId path shown : String)
  | crashTrace
  | slow (ruleId : String) (millis : Binary64) (path : String)
  | cancelled (skipped : Nat)
  deriving DecidableEq, Repr

namespace Log

def level : Log → String
  | .phase _ _ => "DEBUG"
  | .cancelRequested => "INFO"
  | .ignoring _ => "DEBUG"
  | .unparsable _ _ => "INFO"
  | .unreadable _ => "WARNING"
  | .notLoaded _ _ => "WARNING"
  | .loadTrace => "DEBUG"
  | .crashed _ _ _ => "WARNING"
  | .crashTrace => "DEBUG"
  | .slow _ _ _ => "WARNING"
  | .cancelled _ => "WARNING"

def message : Log → String
  | .phase a b => "Run state " ++ a.name ++ " -> " ++ b.name
  | .cancelRequested => "Lint run cancellation requested"
  | .ignoring path => "Ignoring " ++ path
  | .unparsable path reason => "Skipping unparsable file " ++ path ++ ": " ++ reason
  | .unreadable path => "Cannot read file: " ++ path
  | .notLoaded path reason => "Failed to load " ++ path ++ ": " ++ reason
  | .loadTrace => "Load failure traceback"
  | .crashed id path shown => "Rule '" ++ id ++ "' crashed on " ++ path ++ ": " ++ shown
  | .crashTrace => "Rule crash traceback"
  | .slow id millis path => "Rule '" ++ id ++ "' took " ++ millis.fixed 0 ++ " ms on " ++ path
  | .cancelled n =>
    s!"Lint run cancelled: {n} file(s) skipped, result is partial"

end Log

end BoundaryLint
