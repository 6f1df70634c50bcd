/-!
# Diagnostics

A diagnostic is one reported violation. Diagnostics are ordered by file, line, column and rule, and
texts are compared by code points.
-/
namespace BoundaryLint

/-- How serious a violation is. A rule that is off reports nothing. Reports show other names as
they are. -/
inductive Severity where
  | error
  | warn
  | off
  | other (name : String)
  deriving DecidableEq, Repr, Inhabited

namespace Severity

def name : Severity → String
  | .error => "error"
  | .warn => "warn"
  | .off => "off"
  | .other n => n

def ofName : String → Severity
  | "error" => .error
  | "warn" => .warn
  | "off" => .off
  | n => .other n

end Severity

/-- A reported violation. Lines and columns count from one. -/
structure Diagnostic where
  file : String
  line : Int
  column : Int
  ruleId : String
  severity : Severity
  message : String
  deriving DecidableEq, Repr, Inhabited

namespace Diagnostic

def isError (d : Diagnostic) : Bool :=
  d.severity == .error

def isWarning (d : Diagnostic) : Bool :=
  d.severity == .warn

/-- The order of reports: by file, then line, then column, then rule. -/
def le (a b : Diagnostic) : Bool :=
  if a.file != b.file then a.file < b.file
  else if a.line != b.line then a.line < b.line
  else if a.column != b.column then a.column < b.column
  else !decide (b.ruleId < a.ruleId)

/-- Diagnostics in the order of reports; those with equal places and rules keep their order. -/
def sort (ds : List Diagnostic) : List Diagnostic :=
  ds.mergeSort le

def anyError (ds : List Diagnostic) : Bool :=
  ds.any isError

end Diagnostic

end BoundaryLint
