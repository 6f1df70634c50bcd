import BoundaryLint.Project.Collect
import BoundaryLint.Run.Basic

/-!
# Linting a project

The configuration is looked for, files are collected and a run analyzes them.
-/
namespace BoundaryLint

/-- Why a project cannot be linted. -/
inductive LintError where
  | noConfig (root : String)
  | collect (e : CollectError)
  | run (e : RunError)
  deriving Repr

namespace LintError

def message? : LintError → Option String
  | .noConfig root => some ("No archlint configuration found in " ++ root)
  | .collect e => some e.message
  | .run e => e.message?

/-- Whether an error is raised past those who report a refused configuration. -/
def escapes : LintError → Bool
  | .noConfig _ => false
  | .collect e => e.escapes
  | .run (.load e) => e.escapes
  | .run (.notRegistered _) => false
  | .run _ => true

end LintError

namespace Project

/-- The configuration file at the root, under the first of its names that is a file. -/
def findConfig? (p : Project) : Option Path :=
  (Config.fileNames.map fun n => p.root.join (.ofText n)).find? (p.top.isFile p.cwd)

/-- The configuration file to use: the one that is given, or else the one at the root. -/
def configPath (p : Project) (given : Option Path) : Except LintError Path :=
  match given with
  | some c => .ok c
  | none =>
    match p.findConfig? with
    | some c => .ok c
    | none => .error (.noConfig p.root.text)

/-- A configuration file as the origin of a configuration. -/
def configOrigin (p : Project) (c : Path) : Config.Origin :=
  .file c.text c.name
    (match p.top.openFile p.cwd c with
    | .ok f => .ok f.content
    | .error f => .error (f.message c.text))

/-- The file at a path below the root, or at an absolute path. -/
def read (p : Project) (path : String) : Reading :=
  let path := p.root.join (.ofText path)
  { outcome :=
      match p.top.openFile p.cwd path with
      | .ok f => .content f
      | .error f => .unreadable (f.message path.text) }

def setup (p : Project) (registry : Registry) : Setup :=
  { registry, loader := p.loader, read := p.read }

/-- Lints the project. The run that is given says how the clock goes and whether the run is
interrupted before it starts on files. -/
def lint (p : Project) (registry : Registry) (config : Option Path) (targets : List String)
    (r : Run) : Except LintError Result := do
  let c ← p.configPath config
  let s := p.setup registry
  match r.load s (p.configOrigin c) with
  | (.error e, _) => .error (.run e)
  | (.ok config, r) =>
    let files ← (p.collect config.ignores targets).mapError .collect
    ((r.analyze s config (files.map p.shown)).1).mapError .run

end Project

end BoundaryLint
