import BoundaryLint.Report.Basic
import BoundaryLint.Report.Json
import BoundaryLint.Text.Lines

/-!
# Formats of reports

A report is written for people, grouped by file; as structured data; or for tools, a line for each
diagnostic.
-/
namespace BoundaryLint.Report

inductive Format where
  | rich
  | json
  | porcelain
  deriving DecidableEq, Repr

def Format.ofName? : String → Option Format
  | "rich" => some .rich
  | "json" => some .json
  | "porcelain" => some .porcelain
  | _ => none

/-- The mark in front of a diagnostic. -/
def mark : Severity → String
  | .error => "✗"
  | .warn => "!"
  | _ => "?"

/-- The line at the end of a report for people. -/
def summary (r : Result) : String :=
  let stats := s!"{r.filesAnalyzed} files analyzed, " ++ r.elapsed.seconds.fixed 1 ++ "s"
  let total := r.diagnostics.length
  let noun := if total == 1 then "problem" else "problems"
  let found :=
    if r.diagnostics.isEmpty then "No problems found (" ++ stats ++ ")"
    else
      s!"{total} {noun} ({r.errorCount} errors, {r.warningCount} warnings) (" ++ stats ++ ")"
  if r.isPartial then found ++ s!" [partial: {r.filesSkipped} files not analyzed]" else found

def richLine (d : Diagnostic) : String :=
  s!"  {mark d.severity} {d.line}:{d.column}  {d.ruleId}  {d.message}"

/-- The lines of the diagnostics. Neighbours in one file stand under its name, and a blank line
follows them; `current` is the file of the line before. -/
def richLines (current : Option String) : List Diagnostic → List String
  | [] => if current.isSome then [""] else []
  | d :: ds =>
    let heading :=
      if current == some d.file then []
      else if current.isSome then ["", d.file]
      else [d.file]
    heading ++ richLine d :: richLines (some d.file) ds

/-- A report for people. -/
def rich (r : Result) : String :=
  "\n".intercalate
    ([s!"Rules: {r.rulesConfigured} configured", s!"Files: {r.filesAnalyzed} analyzed", ""] ++
      richLines none r.diagnostics ++ [summary r])

def diagnosticJson (d : Diagnostic) : Json :=
  .obj [("file", .str d.file), ("line", .int d.line), ("column", .int d.column),
    ("rule_id", .str d.ruleId), ("severity", .str d.severity.name), ("message", .str d.message)]

def elapsedJson : Elapsed → Json
  | .whole n => .int n
  | .float x => .float x

/-- A report as structured data. -/
def json (r : Result) : String :=
  Json.text (.obj
    [("diagnostics", .arr (r.diagnostics.map diagnosticJson)),
     ("summary", .obj
       [("errors", .int r.errorCount), ("warnings", .int r.warningCount),
        ("files_analyzed", .int r.filesAnalyzed), ("files_skipped", .int r.filesSkipped),
        ("rules_configured", .int r.rulesConfigured), ("partial", .bool r.isPartial),
        ("passed", .bool r.passed), ("elapsed_ms", elapsedJson r.elapsed)])])

/-- A message on one line, with a blank for each line break inside of it. -/
def oneLine (message : String) : String :=
  " ".intercalate ((Text.lines message.toList).map String.ofList)

def porcelainLine (d : Diagnostic) : String :=
  s!"{d.file}:{d.line}:{d.column}:{d.severity.name}:{d.ruleId}:" ++ oneLine d.message

/-- A report for tools, empty if there are no diagnostics. -/
def porcelain (r : Result) : String :=
  "\n".intercalate (r.diagnostics.map porcelainLine)

/-- A report in a format. -/
def format (r : Result) : Format → String
  | .rich => rich r
  | .json => json r
  | .porcelain => porcelain r

end BoundaryLint.Report
