import BoundaryLint.Project.Command
import BoundaryLint.Proofs.Lifecycle

/-!
# Checking a configuration ahead of a run

One command only checks the configuration of a project, another one lints the project with it. The
second one goes a longer way: it looks for files and analyzes them, and on that way too a glob can
be refused or a rule be missing. Once the configuration has passed the check, none of this happens,
whatever the files hold. So the two commands are refused together and with the same words.
-/
namespace BoundaryLint

/-! ### Analyses with registered rules -/

namespace Run
variable {w : Setup} {resolver : Resolver}

theorem missing?_tasks (h : Registered w.registry resolver) (ps : List String) (r : Run) :
    missing? (tasks w resolver ps r).1 = none := by
  induction ps generalizing r with
  | nil => rfl
  | cons p ps ih =>
      have hfirst := task_fst w resolver p r
      rw [fileOutcome_eq_analyzed h p] at hfirst
      simp only [tasks, hfirst]
      split
      · exact ih _
      · exact ih _

theorem exists_result_of_registered {config : Config} (h : Registered w.registry config.resolver)
    (paths : List String) {r : Run} (hr : r.phase = .loading) :
    ∃ result, (r.analyze w config paths).1 = .ok result := by
  obtain ⟨r', -, he⟩ := analyze_eq w config paths hr
  have hmissing : missing? (taskPhase w config paths r).1 = none := missing?_tasks h _ _
  rw [he, resultOf, hmissing]
  exact ⟨_, rfl⟩

end Run

/-! ### The whole project as a target -/

namespace Project

theorem join_dot (root : Path) : root.join (.ofText ".") = root := by
  have hdot : Path.ofText "." = { absolute := false, names := [] } := by decide +kernel
  rw [hdot]
  simp [Path.join]

theorem targetFiles_dot (p : Project) (ignores : GlobSet) :
    (∃ files, p.targetFiles ignores "." = .ok files) ∨
      (p.targetFiles ignores "." = .error (.nameTooLong p.root.text) ∧
        p.top.isDirectory p.cwd p.root = false) := by
  unfold targetFiles
  rw [join_dot]
  dsimp only
  cases hplace : p.top.locate p.cwd p.root with
  | ok place =>
      left
      cases htree : place.tree with
      | file f => exact ⟨[place.names], by simp only [htree]⟩
      | dir entries => exact ⟨p.walk ignores place.names (.dir entries), by simp only [htree]⟩
  | error f =>
      by_cases hf : f = .nameTooLong
      · subst hf
        exact .inr ⟨rfl, by simp only [FileTree.isDirectory, FileTree.directory?, hplace]; rfl⟩
      · left
        -- A root that is not there is read as a glob, and this one is always accepted.
        have hok : (Glob.ofText ".").isOk = true := by decide +kernel
        cases hglob : Glob.ofText "." with
        | error e => rw [hglob] at hok; cases hok
        | ok glob =>
            refine ⟨(p.walkFrom ignores p.root).filter fun g => glob.accepts (p.shown g), ?_⟩
            cases f with
            | nameTooLong => exact absurd rfl hf
            | notFound => rfl
            | notDirectory => rfl
            | isDirectory => rfl

theorem collect_no_targets (p : Project) (ignores : GlobSet) :
    (∃ files, p.collect ignores [] = .ok files) ∨
      (p.collect ignores [] = .error (.nameTooLong p.root.text) ∧
        p.top.isDirectory p.cwd p.root = false) := by
  have hcollect : p.collect ignores [] =
      (p.targetFiles ignores ".").map fun files => inOrder [files].flatten := by
    unfold collect
    change ["."].mapM (p.targetFiles ignores) >>= _ = _
    cases htarget : p.targetFiles ignores "." with
    | ok files => simp [htarget, bind, Except.bind, Except.map, pure, Except.pure]
    | error e => simp [htarget, bind, Except.bind, Except.map]
  rw [hcollect]
  rcases p.targetFiles_dot ignores with ⟨files, hfiles⟩ | ⟨herror, hroot⟩
  · exact .inl ⟨_, by rw [hfiles]; rfl⟩
  · exact .inr ⟨by rw [herror]; rfl, hroot⟩

/-- A project whose configuration is loaded is linted, unless its root is not there. -/
theorem lint_cases (p : Project) (registry : Registry) (given : Option Path) {r : Run}
    (hr : r.phase = .idle) :
    (∃ e, p.configPath given = .error e ∧ p.lint registry given [] r = .error e) ∨
      ∃ path, p.configPath given = .ok path ∧
        ((∃ e, (p.configOrigin path).load registry p.loader = .error e ∧
            p.lint registry given [] r = .error (.run (.load e))) ∨
          ∃ c, (p.configOrigin path).load registry p.loader = .ok c ∧
            ((∃ result, p.lint registry given [] r = .ok result) ∨
              (p.lint registry given [] r = .error (.collect (.nameTooLong p.root.text)) ∧
                p.top.isDirectory p.cwd p.root = false))) := by
  unfold lint
  cases hpath : p.configPath given with
  | error e => exact .inl ⟨e, rfl, rfl⟩
  | ok path =>
      refine .inr ⟨path, rfl, ?_⟩
      simp only [bind, Except.bind, Run.load_of_idle _ _ hr]
      have hregistry : (p.setup registry).registry = registry := rfl
      have hloader : (p.setup registry).loader = p.loader := rfl
      rw [hregistry, hloader]
      cases hload : (p.configOrigin path).load registry p.loader with
      | error e => exact .inl ⟨e, rfl, rfl⟩
      | ok c =>
          refine .inr ⟨c, rfl, ?_⟩
          have hread : (p.configOrigin path).IsRead := trivial
          have hreg := Run.registered_of_load (w := p.setup registry) hread hload
          dsimp only
          rcases p.collect_no_targets c.ignores with ⟨files, hfiles⟩ | ⟨herror, hroot⟩
          · obtain ⟨result, hresult⟩ := Run.exists_result_of_registered hreg (files.map p.shown)
              (r := r.enter .loading) rfl
            exact .inl ⟨result, by simp only [hfiles, Except.mapError, hresult]⟩
          · exact .inr ⟨by simp only [herror, Except.mapError], hroot⟩

end Project

/-! ### The two commands -/

namespace Command

def accepted (verbose quiet : Bool) (path : Path) (c : Config) : String :=
  if quiet then ""
  else
    line (path.name ++ s!": OK ({c.blocks.length} blocks, {c.ruleCount} rule entries)") ++
      if verbose then String.join (c.blocks.map blockLine) else ""

def Outcome.code : Outcome → Nat
  | .usage => 2
  | .exit code _ _ => code
  | .report r format => (reportExit r format).1
  | .raised _ => 1

theorem code_report_ne_two (r : Result) (format : Report.Format) :
    (Outcome.report r format).code ≠ 2 := by
  change (reportExit r format).1 ≠ 2
  unfold reportExit
  dsimp only
  split
  · simp
  · split <;> simp

theorem code_ofError_ne_zero (e : LintError) : (ofError e).code ≠ 0 := by
  unfold ofError
  split <;> simp [Outcome.code]

/-- Arguments of two commands name the same project and the same configuration, and nothing else to
look at. -/
structure SameChoice (a b : Args) : Prop where
  project : a.value? "project" = b.value? "project"
  config : a.value? "config" = b.value? "config"
  left : a.others = []
  right : b.others = []

theorem SameChoice.target? {a b : Args} (h : SameChoice a b) (p : Place) :
    target? p a = target? p b := by
  unfold Command.target?
  rw [h.project, h.config]

section
variable {p : Place} {xs : List String} {a : Args}

theorem checkConfig_of_no_target (hread : args checkVocabulary xs = some a)
    (htarget : target? p a = none) (verbose quiet : Bool) :
    checkConfig p verbose quiet xs = .usage := by
  simp [checkConfig, hread, htarget]

theorem checkConfig_of_target (hread : args checkVocabulary xs = some a) (hothers : a.others = [])
    {project : Project} {given : Option Path} (htarget : target? p a = some (project, given))
    (verbose quiet : Bool) :
    checkConfig p verbose quiet xs = match project.configPath given with
      | .error e => ofError e
      | .ok path =>
        match (project.configOrigin path).load .builtin project.loader with
        | .error e => ofError (.run (.load e))
        | .ok c => .exit 0 (accepted verbose quiet path c) "" := by
  simp only [checkConfig, hread, htarget, hothers, Option.bind_eq_bind, Option.bind_some,
    List.isEmpty_nil, if_true]
  rfl

variable {format : Report.Format} {r : Run}

theorem lint_of_no_target (hread : args lintVocabulary xs = some a)
    (hformat : format? p a = some format) (htarget : target? p a = none) :
    lint p r xs = .usage := by
  simp [lint, hread, hformat, htarget]

theorem lint_of_target (hread : args lintVocabulary xs = some a)
    (hformat : format? p a = some format) (hjobs : isCount (a.value? "jobs") = true)
    {project : Project} {given : Option Path} (htarget : target? p a = some (project, given)) :
    lint p r xs = match project.lint .builtin given a.others r with
      | .error e => ofError e
      | .ok result => .report result format := by
  cases hlint : project.lint .builtin given a.others r with
  | error e =>
      simp only [lint, hread, hformat, htarget, hjobs, Option.bind_eq_bind, Option.bind_some,
        if_true, hlint]
  | ok result =>
      simp only [lint, hread, hformat, htarget, hjobs, Option.bind_eq_bind, Option.bind_some,
        if_true, hlint]

end

/-- The check of a configuration and linting without targets on the same project end with exit code
two together, and if the check does not succeed, linting ends in just the same way. If it succeeds,
linting ends with a report, unless the name of the root is too long for there to be a directory. -/
theorem checkConfig_foretells_lint (p : Place) {xs ys : List String} {a b : Args}
    (hcheck : args checkVocabulary xs = some a) (hlint : args lintVocabulary ys = some b)
    (hsame : SameChoice a b) {format : Report.Format} (hformat : format? p b = some format)
    (hjobs : isCount (b.value? "jobs") = true) (verbose quiet cancelled : Bool) (clock : Clock) :
    ((checkConfig p verbose quiet xs).code = 2 ↔ (lint p { cancelled, clock } ys).code = 2) ∧
      ((checkConfig p verbose quiet xs).code ≠ 0 →
        lint p { cancelled, clock } ys = checkConfig p verbose quiet xs) ∧
      ((checkConfig p verbose quiet xs).code = 0 → ∃ project given,
        target? p b = some (project, given) ∧
          ((∃ result, lint p { cancelled, clock } ys = .report result format) ∨
            (lint p { cancelled, clock } ys =
                .raised (.collect (.nameTooLong project.root.text)) ∧
              project.top.isDirectory project.cwd project.root = false))) := by
  have htarget := hsame.target? p
  cases hb : target? p b with
  | none =>
      rw [hb] at htarget
      rw [checkConfig_of_no_target hcheck htarget, lint_of_no_target hlint hformat hb]
      simp [Outcome.code]
  | some t =>
      obtain ⟨project, given⟩ := t
      rw [hb] at htarget
      rw [checkConfig_of_target hcheck hsame.left htarget verbose quiet,
        lint_of_target hlint hformat hjobs hb, hsame.right]
      have hcases := project.lint_cases .builtin given (r := { cancelled, clock }) rfl
      rcases hcases with ⟨e, hpath, hresult⟩ | ⟨path, hpath, hloaded⟩
      · simp [hpath, hresult, code_ofError_ne_zero]
      rcases hloaded with ⟨e, hload, hresult⟩ | ⟨c, hload, ⟨result, hresult⟩ | ⟨hresult, hroot⟩⟩
      · simp [hpath, hload, hresult, code_ofError_ne_zero]
      · have hne := code_report_ne_two result format
        simpa [hpath, hload, hresult, Outcome.code] using hne
      · simp [hpath, hload, hresult, hroot, Outcome.code, ofError, LintError.escapes,
          CollectError.escapes]

/-! ### Projects with and without a configuration -/

def bareProject : Place where
  top := .dir [("p", .dir [("a.ts", .file { content := [], tree := { root := default } })])]
  cwd := []

/-- The configuration file is read as a ban on a storage object. -/
def bannedProject : Place where
  top := .dir [("p", .dir [("archlint.yml", .file { content := [], tree := { root := default } }),
    ("a.ts", .file { content := [], tree := { root := default } })])]
  cwd := []
  loader := fun _ => .ok Run.storageBan

theorem checkConfig_foretells_lint_twoProjects :
    args checkVocabulary ["--project=p"] = some { options := [.option "project" "p"] } ∧
      args lintVocabulary ["--format", "json", "--project", "p"] =
        some { options := [.option "format" "json", .option "project" "p"] } ∧
      (checkConfig bareProject false false ["--project=p"]).code = 2 ∧
      lint bareProject {} ["--format", "json", "--project", "p"] =
        checkConfig bareProject false false ["--project=p"] ∧
      (checkConfig bannedProject false false ["--project=p"]).code = 0 ∧
      ∃ result, lint bannedProject {} ["--format", "json", "--project", "p"] =
        .report result .json := by
  have hcheck : args checkVocabulary ["--project=p"] =
      some { options := [.option "project" "p"] } := by cbv
  have hlint : args lintVocabulary ["--format", "json", "--project", "p"] =
      some { options := [.option "format" "json", .option "project" "p"] } := by cbv
  have hsame : SameChoice { options := [.option "project" "p"] }
      { options := [.option "format" "json", .option "project" "p"] } :=
    ⟨by decide +kernel, by decide +kernel, rfl, rfl⟩
  have hformat : ∀ p, format? p
      { options := [.option "format" "json", .option "project" "p"] } = some .json := by
    intro p
    cbv
  have hrefused : (checkConfig bareProject false false ["--project=p"]).code = 2 := by
    decide +kernel
  have haccepted : (checkConfig bannedProject false false ["--project=p"]).code = 0 := by
    decide +kernel
  have hbare := checkConfig_foretells_lint bareProject hcheck hlint hsame (hformat _)
    (by decide +kernel) false false false {}
  have hbanned := checkConfig_foretells_lint bannedProject hcheck hlint hsame (hformat _)
    (by decide +kernel) false false false {}
  obtain ⟨project, given, htarget, hends⟩ := hbanned.2.2 haccepted
  refine ⟨hcheck, hlint, hrefused, hbare.2.1 (by rw [hrefused]; decide), haccepted,
    hends.resolve_right fun h => ?_⟩
  have hdirectory : (target? bannedProject
      { options := [.option "format" "json", .option "project" "p"] }).map
        (fun t => t.1.top.isDirectory t.1.cwd t.1.root) = some true := by decide +kernel
  rw [htarget, Option.map_some, h.2] at hdirectory
  cases hdirectory

end Command

end BoundaryLint
