import BoundaryLint.Rule.Registry
import BoundaryLint.Run.Clock
import BoundaryLint.Run.Log

/-!
# The inspection of one file

What the rules find in a file depends only on the file, its entries and the registry. The log and the
time that it takes come on top of that and change nothing about it.
-/
namespace BoundaryLint

open Number (Binary64)

/-- A file as it stands on disk, with what a parser makes of it. -/
structure SourceFile where
  content : Text.Utf8.Bytes
  tree : Tree
  deriving Repr

/-- Why a file gives no source. -/
inductive LoadFault where
  | unparsable (reason : String) (line column : Int)
  | unreadable (reason : String)
  /-- Loading failed in another way, which has a name. -/
  | other (kind reason : String)
  deriving DecidableEq, Repr

/-- What comes of reading a file. -/
inductive ReadOutcome where
  | content (f : SourceFile)
  | fault (f : LoadFault)
  deriving Repr

namespace ReadOutcome

def unreadable (reason : String) : ReadOutcome := .fault (.unreadable reason)

def failed (kind reason : String) : ReadOutcome := .fault (.other kind reason)

/-- The source that a parser makes of what was read. -/
def source (parse : SourceFile → Except LoadFault Source) : ReadOutcome → Except LoadFault Source
  | .content f => parse f
  | .fault f => .error f

end ReadOutcome

/-- Parses a file by its extension. -/
def SourceFile.parse (path : String) (f : SourceFile) : Except LoadFault Source :=
  (Source.parse path f.content f.tree).mapError fun e => .unparsable e.reason e.line e.column

/-- What a rule makes of a file. -/
inductive RuleOutcome where
  | found (ds : List Diagnostic)
  | crashed (c : Crash)
  | notRegistered
  deriving Repr

/-- What an inspection comes to. -/
inductive Inspection where
  | fault (f : LoadFault)
  /-- The path of the source, and the entries that were run, in order, up to the first that is not
  registered. -/
  | checked (path : String) (outcomes : List (Entry × RuleOutcome))
  deriving Repr

namespace Inspection

/-- The id under which faults of files are reported. -/
def unparsableId : String := "unparsable-file"

/-- The report of a file that could not be parsed. -/
def unparsableReport (path reason : String) (line column : Int) : Diagnostic :=
  { file := path, line, column, ruleId := unparsableId, severity := .error,
    message := "File could not be parsed: " ++ reason }

/-- The report of a rule that crashed. -/
def crashReport (path ruleId : String) : Diagnostic :=
  { file := path, line := 1, column := 1, ruleId, severity := .error, message := "rule crashed" }

def runRule (registry : Registry) (s : Source) (e : Entry) : RuleOutcome :=
  match registry.get? e.ruleId with
  | none => .notRegistered
  | some rule =>
    match rule.check s e with
    | .ok ds => .found ds
    | .error c => .crashed c

/-- Runs entries until one is not registered. -/
def runRules (registry : Registry) (s : Source) : List Entry → List (Entry × RuleOutcome)
  | [] => []
  | e :: es =>
    match runRule registry s e with
    | .notRegistered => [(e, .notRegistered)]
    | o => (e, o) :: runRules registry s es

/-- Inspects the source of a file for some entries. -/
def ofSource (registry : Registry) (entries : List Entry) : Except LoadFault Source → Inspection
  | .error f => .fault f
  | .ok s => .checked s.path (runRules registry s entries)

/-- The diagnostics of one entry. -/
def entryReports (path : String) : Entry × RuleOutcome → List Diagnostic
  | (_, .found ds) => ds
  | (e, .crashed _) => [crashReport path e.ruleId]
  | (_, .notRegistered) => []

/-- The report of a file at a path that gives no source. -/
def faultReport (path : String) : LoadFault → Diagnostic
  | .unparsable reason line column => unparsableReport path reason line column
  | .unreadable reason => unparsableReport path ("cannot read file: " ++ reason) 1 1
  | .other kind reason => unparsableReport path (kind ++ ": " ++ reason) 1 1

/-- The diagnostics of a file. A file that gives no source has exactly one. -/
def diagnostics (path : String) : Inspection → List Diagnostic
  | .fault f => [faultReport path f]
  | .checked source outcomes => outcomes.flatMap (entryReports source)

/-- The rule that is not registered, if an entry has one. -/
def missingRule? : Inspection → Option String
  | .checked _ outcomes =>
    (outcomes.find? fun o => match o.2 with
      | .notRegistered => true
      | _ => false).map fun o => o.1.ruleId
  | _ => none

/-- What is logged about entries, and the clock after them. A rule is slow if it takes longer than
`limit` milliseconds; the time of one that crashed is not taken. -/
def entryLogs (path : String) (limit : Binary64) (clock : Clock) :
    List (Entry × RuleOutcome) → List Log × Clock
  | [] => ([], clock)
  | (e, o) :: rest =>
    match o with
    | .notRegistered => ([], clock)
    | .crashed c =>
      let (logs, clock) := entryLogs path limit clock.look rest
      (.crashed e.ruleId path c.shown :: .crashTrace :: logs, clock)
    | .found _ =>
      let start := clock.look
      let stop := start.look
      let millis := stop.since start.now
      let (logs, clock) := entryLogs path limit stop rest
      (if limit.lt millis then .slow e.ruleId millis path :: logs else logs, clock)

/-- What is logged about a file, and the clock after it. -/
def logs (path : String) (limit : Binary64) (clock : Clock) : Inspection → List Log × Clock
  | .fault (.unparsable reason _ _) => ([.unparsable path reason], clock)
  | .fault (.unreadable _) => ([.unreadable path], clock)
  | .fault (.other _ reason) => ([.notLoaded path reason, .loadTrace], clock)
  | .checked source outcomes => entryLogs source limit clock outcomes

end Inspection

end BoundaryLint
