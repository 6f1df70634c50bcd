import BoundaryLint.Config.File
import BoundaryLint.Diagnostic.Collected
import BoundaryLint.Report.Basic
import BoundaryLint.Run.Inspection

/-!
# A run

A run loads a configuration, analyzes files and aggregates what they gave. Its state is a value: each
call gives a result and the run after it. A fault of a single file or rule becomes a diagnostic and
never fails the run. Once a run is cancelled, the files that have not been started are skipped.
-/
namespace BoundaryLint

open Number (Binary64)

/-- A reading of a file; a cancellation may be requested while it is read. -/
structure Reading where
  outcome : ReadOutcome
  cancels : Bool := false
  deriving Repr

/-- What a run works with. Files are read and parsed by their project-relative path. -/
structure Setup where
  registry : Registry
  loader : Config.Loader := .utf8
  read : String → Reading
  parse : String → SourceFile → Except LoadFault Source := SourceFile.parse
  /-- A rule that takes longer than this many milliseconds is logged. -/
  slowRule : Binary64 := .ofInt 2000

/-- The source of the file at a path. -/
def Setup.source (w : Setup) (path : String) : Except LoadFault Source :=
  (w.read path).outcome.source (w.parse path)

/-- The state of a run. -/
structure Run where
  phase : Phase := .idle
  cancelled : Bool := false
  clock : Clock := {}
  /-- All that was logged, in order. -/
  logs : List Log := []
  /-- The paths that were read, in order. -/
  reads : List String := []
  deriving Repr

/-- Why a call gives no result. -/
inductive RunError where
  | alreadyStarted (p : Phase)
  | notLoaded (p : Phase)
  | load (e : Config.LoadError)
  | notRegistered (ruleId : String)
  deriving Repr

def RunError.message? : RunError → Option String
  | .alreadyStarted p => some ("Run already started (state: " ++ p.name ++ ")")
  | .notLoaded p => some ("Configuration not loaded (state: " ++ p.name ++ ")")
  | .load e => e.message?
  | .notRegistered id => some ("Rule '" ++ id ++ "' is not registered")

/-- What comes of the task of one file. -/
inductive TaskOutcome where
  | skipped
  | analyzed (ds : List Diagnostic)
  | notRegistered (ruleId : String)
  deriving Repr

def TaskOutcome.isSkipped : TaskOutcome → Bool
  | .skipped => true
  | _ => false

namespace Run

def log (r : Run) (l : Log) : Run :=
  { r with logs := r.logs ++ [l] }

/-- Enters a phase. -/
def enter (r : Run) (p : Phase) : Run :=
  { r.log (.phase r.phase p) with phase := p }

/-- Requests that files not yet started be skipped. -/
def cancel (r : Run) : Run :=
  { r.log .cancelRequested with cancelled := true }

/-- Loads a configuration, which a run does once. A refused one fails the run. -/
def load (w : Setup) (origin : Config.Origin) (r : Run) : Except RunError Config × Run :=
  if r.phase != .idle then (.error (.alreadyStarted r.phase), r)
  else
    let r := r.enter .loading
    match origin.load w.registry w.loader with
    | .ok c => (.ok c, r)
    | .error e => (.error (.load e), if e.escapes then r else r.enter .failed)

/-- The task of one file. A file without entries is not read. -/
def task (w : Setup) (resolver : Resolver) (path : String) (r : Run) : TaskOutcome × Run :=
  if r.cancelled then (.skipped, r)
  else
    match (resolver.active path).map (·.2) with
    | [] => (.analyzed [], r)
    | entries =>
      let r := { r with reads := r.reads ++ [path] }
      let r := if (w.read path).cancels then r.cancel else r
      let i := Inspection.ofSource w.registry entries (w.source path)
      let (logs, clock) := i.logs path w.slowRule r.clock
      let r := { r with logs := r.logs ++ logs, clock }
      match i.missingRule? with
      | some id => (.notRegistered id, r)
      | none => (.analyzed (i.diagnostics path), r)

/-- The tasks of files in turn. -/
def tasks (w : Setup) (resolver : Resolver) : List String → Run →
    List (String × TaskOutcome) × Run
  | [], r => ([], r)
  | p :: ps, r =>
    let (o, r) := task w resolver p r
    let (os, r) := tasks w resolver ps r
    ((p, o) :: os, r)

/-- The paths to analyze: those that are not ignored, in ascending order and once each. -/
def worklist (resolver : Resolver) (paths : List String) : List String :=
  ((paths.filter fun p => !resolver.isIgnored p).mergeSort fun a b => !decide (b < a)).eraseDups

/-- The first rule that a task missed. -/
def missing? : List (String × TaskOutcome) → Option String
  | [] => none
  | (_, .notRegistered id) :: _ => some id
  | _ :: os => missing? os

/-- Takes the outcome of one file into account. -/
def gather (c : Collected) (o : String × TaskOutcome) : Collected :=
  match o.2 with
  | .analyzed ds => c.add o.1 ds
  | _ => c

def collect (os : List (String × TaskOutcome)) : Collected :=
  os.foldl gather .empty

def skippedCount (os : List (String × TaskOutcome)) : Nat :=
  os.countP fun o => o.2.isSkipped

/-- Analyzes files with a loaded configuration. All tasks come to an end before a missing rule fails
the run. -/
def analyze (w : Setup) (config : Config) (paths : List String) (r : Run) :
    Except RunError Result × Run :=
  if r.phase != .loading then (.error (.notLoaded r.phase), r)
  else
    let r := { r with clock := r.clock.look }
    let start := r.clock.now
    let resolver := config.resolver
    let r := r.enter .analyzing
    let r := (paths.filter resolver.isIgnored).foldl (fun r p => r.log (.ignoring p)) r
    let (os, r) := tasks w resolver (worklist resolver paths) r
    match missing? os with
    | some id => (.error (.notRegistered id), r.enter .failed)
    | none =>
      let r := r.enter .aggregating
      let skipped := skippedCount os
      let found := collect os
      let r := if r.cancelled then r.log (.cancelled skipped) else r
      let r := { r with clock := r.clock.look }
      let result : Result :=
        { diagnostics := found.results
          filesAnalyzed := found.fileCount
          filesSkipped := skipped
          rulesConfigured := config.ruleCount
          isPartial := r.cancelled
          elapsed := .float (r.clock.since start) }
      (.ok result, r.enter .done)

/-- Loads a configuration and analyzes files with it. -/
def run (w : Setup) (origin : Config.Origin) (paths : List String) (r : Run) :
    Except RunError Result × Run :=
  match r.load w origin with
  | (.error e, r) => (.error e, r)
  | (.ok c, r) => r.analyze w c paths

end Run

end BoundaryLint
