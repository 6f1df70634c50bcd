import BoundaryLint.Number.Integer
import BoundaryLint.Project.Lint
import BoundaryLint.Report.Format

/-!
# The command line

There are three commands: one lints a project, one lists the rules and one checks a configuration.
Options come as `--name value`, `--name=value` or, if they have one letter, joined behind one dash.
How arguments are read follows the conventions of a library of commands, of which abbreviated names,
help texts and the texts of usage errors are left out.
-/
namespace BoundaryLint.Command

/-- An option and its value, or a switch. -/
inductive Arg where
  | switch (name : String)
  | option (name value : String)
  deriving DecidableEq, Repr

/-- The names that a command knows: switches, options with a value, and one-letter names, each with
the long name that it stands for. -/
structure Vocabulary where
  switches : List String
  options : List String
  letters : List (Char × String)
  /-- Whether options may follow other arguments. -/
  mixed : Bool
  deriving Repr

/-- The arguments of a command: its options, and the other arguments in order. -/
structure Args where
  options : List Arg := []
  others : List String := []
  deriving Repr

namespace Args

def has (a : Args) (name : String) : Bool :=
  a.options.contains (.switch name)

/-- The last value of an option. -/
def value? (a : Args) (name : String) : Option String :=
  a.options.foldl (fun v o => match o with
    | .option n w => if n == name then some w else v
    | .switch _ => v) none

end Args

/-- One-letter names behind a dash. The last may have a value: what is left of the argument, or else
the next one. -/
def letters (voc : Vocabulary) : List Char → List String → Option (List Arg × List String)
  | [], rest => some ([], rest)
  | c :: cs, rest => do
    let name ← (voc.letters.find? fun l => l.1 == c).map (·.2)
    if voc.options.contains name then
      if cs.isEmpty then
        match rest with
        | v :: rest => some ([.option name v], rest)
        | [] => none
      else some ([.option name (String.ofList cs)], rest)
    else
      let (more, rest) ← letters voc cs rest
      some (.switch name :: more, rest)

/-- A long name, with its value behind an equals sign or in the next argument. -/
def long (voc : Vocabulary) (arg : List Char) (rest : List String) : Option (List Arg × List String) :=
  let name := String.ofList (arg.takeWhile (· != '='))
  let attached := arg.dropWhile (· != '=')
  if voc.switches.contains name then
    if attached.isEmpty then some ([.switch name], rest) else none
  else if voc.options.contains name then
    match attached, rest with
    | _ :: v, rest => some ([.option name (String.ofList v)], rest)
    | [], v :: rest => some ([.option name v], rest)
    | [], [] => none
  else none

/-- Reads arguments; `none` is a fault of usage. -/
def parseArgs (voc : Vocabulary) : Nat → List String → Option Args
  | 0, _ => none
  | _, [] => some {}
  | fuel + 1, arg :: rest =>
    match arg.toList with
    | ['-', '-'] => some { others := rest }
    | '-' :: '-' :: cs => do
      let (found, rest) ← long voc cs rest
      let a ← parseArgs voc fuel rest
      some { a with options := found ++ a.options }
    | '-' :: c :: cs => do
      let (found, rest) ← letters voc (c :: cs) rest
      let a ← parseArgs voc fuel rest
      some { a with options := found ++ a.options }
    | _ =>
      if voc.mixed then do
        let a ← parseArgs voc fuel rest
        some { a with others := arg :: a.others }
      else some { others := arg :: rest }

def args (voc : Vocabulary) (xs : List String) : Option Args :=
  parseArgs voc (xs.length + 1) xs

/-- What stands before the name of a command. -/
def mainVocabulary : Vocabulary :=
  { switches := ["version", "verbose", "quiet"], options := [],
    letters := [('v', "verbose"), ('q', "quiet")], mixed := false }

def lintVocabulary : Vocabulary :=
  { switches := [], options := ["format", "project", "config", "jobs"], letters := [('j', "jobs")],
    mixed := true }

def rulesVocabulary : Vocabulary :=
  { switches := ["json"], options := [], letters := [], mixed := true }

def checkVocabulary : Vocabulary :=
  { switches := [], options := ["project", "config"], letters := [], mixed := true }

/-- What the program does with its arguments. -/
inductive Outcome where
  | usage
  | exit (code : Nat) (out err : String)
  | report (r : Result) (format : Report.Format)
  /-- An error that is not reported but raised. -/
  | raised (e : LintError)
  deriving Repr

/-- Where the program runs. -/
structure Place where
  top : FileTree
  cwd : List String
  loader : Config.Loader := .utf8
  /-- Whether the output goes to a terminal. -/
  terminal : Bool := false

/-- A text with a line break behind it. -/
def line (s : String) : String :=
  s ++ "\n"

/-- The end of the program after an error: a refused configuration is reported. -/
def ofError (e : LintError) : Outcome :=
  if e.escapes then .raised e
  else .exit 2 "" (line ("Error: " ++ e.message?.getD ""))

/-- The root and the configuration file that options name; the root must be a directory, and the
configuration file must not be one. -/
def target? (p : Place) (a : Args) : Option (Project × Option Path) := do
  let root ←
    match a.value? "project" with
    | none => some { absolute := true, names := p.cwd }
    | some s =>
      if s != "" && p.top.isDirectory p.cwd (.ofText s) then some (Path.ofText s) else none
  let config ←
    match a.value? "config" with
    | none => some none
    | some s =>
      if s != "" && p.top.isDirectory p.cwd (.ofText s) then none else some (some (Path.ofText s))
  some ({ top := p.top, cwd := p.cwd, root, loader := p.loader }, config)

/-- Whether a text is a positive integer, or missing. -/
def isCount : Option String → Bool
  | none => true
  | some s =>
    match Number.integer? 10 s.toList with
    | some n => 1 ≤ n
    | none => false

/-- The format of the report; without an option it depends on where the output goes. -/
def format? (p : Place) (a : Args) : Option Report.Format :=
  match a.value? "format" with
  | none => some (if p.terminal then .rich else .porcelain)
  | some s => Report.Format.ofName? s

/-- How the program ends after a run: with its exit code, output and error output. -/
def reportExit (r : Result) (format : Report.Format) : Nat × String × String :=
  let text := Report.format r format
  let out := if text.isEmpty then "" else line text
  if r.isPartial then (3, out, line "Warning: run was interrupted, results are partial.")
  else (if r.hasErrors then 1 else 0, out, "")

/-- Lints a project. -/
def lint (p : Place) (r : Run) (xs : List String) : Outcome :=
  match (do
    let a ← args lintVocabulary xs
    let format ← format? p a
    let (project, config) ← target? p a
    if isCount (a.value? "jobs") then some (a, format, project, config) else none :
      Option (Args × Report.Format × Project × Option Path)) with
  | none => .usage
  | some (a, format, project, config) =>
    match project.lint .builtin config a.others r with
    | .error e => ofError e
    | .ok result => .report result format

/-- A text filled up with blanks to a width. -/
def padded (width : Nat) (s : String) : String :=
  s ++ String.ofList (List.replicate (width - s.length) ' ')

/-- Lists the rules. -/
def rules (registry : Registry) (xs : List String) : Outcome :=
  match args rulesVocabulary xs with
  | none => .usage
  | some a =>
    if !a.others.isEmpty then .usage
    else if a.has "json" then
      let item (r : Rule) : Report.Json :=
        .obj [("rule_id", .str r.id), ("description", .str r.description)]
      .exit 0 (line (Report.Json.text (.arr (registry.rules.map item)))) ""
    else
      let width := (registry.ids.map String.length).foldl max 0
      let row (r : Rule) : String := line (padded width r.id ++ "  " ++ r.description)
      .exit 0 (String.join (registry.rules.map row)) ""

/-- What is said of a block of an accepted configuration. -/
def blockLine (b : Block) : String :=
  let ids := ", ".intercalate (b.rules.map fun e => e.ruleId)
  line ("  " ++ b.name ++ ": " ++ ", ".intercalate b.files.patterns ++ " -> " ++
    if ids.isEmpty then "-" else ids)

/-- Checks a configuration without analyzing files. -/
def checkConfig (p : Place) (verbose quiet : Bool) (xs : List String) : Outcome :=
  match (do
    let a ← args checkVocabulary xs
    let (project, config) ← target? p a
    if a.others.isEmpty then some (project, config) else none : Option (Project × Option Path)) with
  | none => .usage
  | some (project, config) =>
    match project.configPath config with
    | .error e => ofError e
    | .ok path =>
      match (project.configOrigin path).load .builtin project.loader with
      | .error e => ofError (.run (.load e))
      | .ok c =>
        let head :=
          line (path.name ++ s!": OK ({c.blocks.length} blocks, {c.ruleCount} rule entries)")
        let blocks := if verbose then String.join (c.blocks.map blockLine) else ""
        .exit 0 (if quiet then "" else head ++ blocks) ""

/-- The version of the program. -/
def version : String := "0.4.0"

/-- Runs the program. The run that is given says how the clock goes and whether the run is
interrupted. -/
def run (p : Place) (r : Run) (xs : List String) : Outcome :=
  match args mainVocabulary xs with
  | none => .usage
  | some a =>
    if a.has "version" then .exit 0 (line ("archlint, version " ++ version)) ""
    else
      match a.others with
      | "lint" :: xs => lint p r xs
      | "rules" :: xs => rules .builtin xs
      | "check-config" :: xs => checkConfig p (a.has "verbose") (a.has "quiet") xs
      | _ => .usage

end BoundaryLint.Command
