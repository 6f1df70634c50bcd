import BoundaryLint.Rule.RestrictedImports
import Mathlib.Data.List.Forall2
import Mathlib.Data.List.Nodup

/-!
# Declarations of banned imports

A declaration names a module by the text of its source, however it binds the names. The rule reports
the declarations of the banned specifiers, each once and with the message of the first item that
bans it. So the order of items with distinct specifiers does not matter, and an item for a new
specifier changes nothing for the others.
-/
namespace BoundaryLint.RestrictedImports

/-! ### Declarations -/

/-- The source of an import or a re-export is in its field `source`. An import without one may have
it in the first clause that requires a module. -/
inductive HasSource : Node → Node → Prop
  | field {n src : Node} : n.kind = "import_statement" ∨ n.kind = "export_statement" →
      n.child? "source" = some src → HasSource n src
  | require {n clause src : Node} {front back : List Node} : n.kind = "import_statement" →
      n.child? "source" = none → n.namedChildren = front ++ clause :: back →
      (∀ c ∈ front, c.kind ≠ "import_require_clause") → clause.kind = "import_require_clause" →
      clause.child? "source" = some src → HasSource n src

/-- A node is an import or a re-export of the module with a specifier. -/
def Declares (s : Source) (n : Node) (specifier : String) : Prop :=
  ∃ src, HasSource n src ∧ s.literal src = specifier

theorem importSource?_eq_some_iff {n src : Node} :
    n.importSource? = some src ↔ HasSource n src := by
  constructor
  · intro h
    unfold Node.importSource? at h
    split at h
    · rename_i hkind
      have hkind : n.kind = "import_statement" := by simpa using hkind
      split at h
      · rename_i hfield
        cases h
        exact .field (.inl hkind) hfield
      · rename_i hfield
        obtain ⟨clause, hfind, hsrc⟩ := Option.bind_eq_some_iff.mp h
        obtain ⟨hclause, front, back, hchildren, hfront⟩ := List.find?_eq_some_iff_append.mp hfind
        refine .require hkind hfield hchildren ?_ (by simpa using hclause) hsrc
        intro c hc
        simpa using hfront c hc
    · split at h
      · rename_i hkind
        exact .field (.inr (by simpa using hkind)) h
      · cases h
  · intro h
    cases h with
    | field hkind hfield =>
        rcases hkind with hkind | hkind
        · simp [Node.importSource?, hkind, hfield]
        · simp [Node.importSource?, hkind, hfield]
    | require hkind hfield hchildren hfront hclause hsrc =>
        rename_i clause front back
        have hfind : n.namedChildren.find? (fun c => c.kind == "import_require_clause") =
            some clause := by
          refine List.find?_eq_some_iff_append.mpr
            ⟨by simpa using hclause, front, back, hchildren, ?_⟩
          intro c hc
          simpa using hfront c hc
        rw [Node.importSource?, if_pos (beq_iff_eq.mpr hkind), hfield]
        dsimp only
        rw [hfind, Option.bind_some, hsrc]

theorem declares_iff {s : Source} {n : Node} {specifier : String} :
    Declares s n specifier ↔ n.importSource?.map s.literal = some specifier := by
  simp only [Declares, ← importSource?_eq_some_iff, Option.map_eq_some_iff]

instance (s : Source) (n : Node) (specifier : String) : Decidable (Declares s n specifier) :=
  decidable_of_iff _ declares_iff.symm

/-! ### Messages -/

/-- The first item that bans a specifier has a message. -/
inductive FirstMessage (specifier message : String) : List BannedImport → Prop
  | head {b : BannedImport} {bs : List BannedImport} : b.specifier = specifier →
      b.message = message → FirstMessage specifier message (b :: bs)
  | tail {b : BannedImport} {bs : List BannedImport} : b.specifier ≠ specifier →
      FirstMessage specifier message bs → FirstMessage specifier message (b :: bs)

theorem messageFor?_cons (b : BannedImport) (bs : List BannedImport) (specifier : String) :
    messageFor? (b :: bs) specifier =
      if b.specifier = specifier then some b.message else messageFor? bs specifier := by
  by_cases h : b.specifier = specifier
  · simp [messageFor?, h]
  · simp [messageFor?, h]

theorem messageFor?_eq_some_iff {bs : List BannedImport} {specifier message : String} :
    messageFor? bs specifier = some message ↔ FirstMessage specifier message bs := by
  induction bs with
  | nil =>
      constructor
      · intro h
        cases h
      · intro h
        cases h
  | cons b bs ih =>
      rw [messageFor?_cons]
      by_cases hb : b.specifier = specifier
      · rw [if_pos hb]
        constructor
        · intro h
          exact .head hb (Option.some.inj h)
        · intro h
          cases h with
          | head _ hm => rw [hm]
          | tail hne _ => exact absurd hb hne
      · rw [if_neg hb, ih]
        constructor
        · exact .tail hb
        · intro h
          cases h with
          | head heq _ => exact absurd heq hb
          | tail _ h => exact h

theorem isSome_messageFor?_iff {bs : List BannedImport} {specifier : String} :
    (messageFor? bs specifier).isSome = true ↔ specifier ∈ bs.map (·.specifier) := by
  simp [messageFor?]

theorem messageFor?_eq_none {bs : List BannedImport} {specifier : String}
    (h : specifier ∉ bs.map (·.specifier)) : messageFor? bs specifier = none := by
  rw [← Option.not_isSome_iff_eq_none, isSome_messageFor?_iff]
  exact h

/-- Among items with distinct specifiers the first one that bans a specifier is the only one. -/
theorem messageFor?_perm {bs bs' : List BannedImport} (h : bs.Perm bs')
    (hnodup : (bs.map (·.specifier)).Nodup) (specifier : String) :
    messageFor? bs specifier = messageFor? bs' specifier := by
  induction h with
  | nil => rfl
  | cons b _ ih =>
      rw [messageFor?_cons, messageFor?_cons, ih (List.nodup_cons.mp hnodup).2]
  | swap a b bs =>
      have hne : b.specifier ≠ a.specifier := by
        simp only [List.map_cons, List.nodup_cons, List.mem_cons, not_or] at hnodup
        exact hnodup.1.1
      simp only [messageFor?_cons]
      by_cases ha : a.specifier = specifier
      · rw [if_pos ha, if_pos ha, if_neg (ha ▸ hne)]
      · rw [if_neg ha, if_neg ha]
  | trans h₁ _ ih₁ ih₂ =>
      rw [ih₁ hnodup, ih₂ ((h₁.map _).nodup_iff.mp hnodup)]

theorem messageFor?_insert {front back : List BannedImport} {b : BannedImport}
    (h : b.specifier ∉ (front ++ back).map (·.specifier)) (specifier : String) :
    messageFor? (front ++ b :: back) specifier =
      if specifier = b.specifier then some b.message
      else messageFor? (front ++ back) specifier := by
  induction front with
  | nil =>
      rw [List.nil_append, messageFor?_cons, List.nil_append]
      exact if_congr eq_comm rfl rfl
  | cons a front ih =>
      rw [List.cons_append, List.map_cons, List.mem_cons, not_or] at h
      rw [List.cons_append, messageFor?_cons, ih h.2, List.cons_append, messageFor?_cons]
      by_cases ha : a.specifier = specifier
      · rw [if_pos ha, if_pos ha, if_neg (ha ▸ Ne.symm h.1)]
      · rw [if_neg ha, if_neg ha]

/-! ### Reports -/

def reportOn (bs : List BannedImport) (s : Source) (e : Entry) (n : Node) : Option Diagnostic :=
  (n.importSource?.map s.literal).bind fun specifier =>
    (messageFor? bs specifier).map (s.report n e)

section
variable {bs : List BannedImport} {s : Source} {e : Entry} {n : Node}

theorem diagnostics_eq_filterMap (bs : List BannedImport) (s : Source) (e : Entry) :
    diagnostics bs s e = s.root.preorder.filterMap (reportOn bs s e) := by
  rw [diagnostics]
  congr 1
  funext n
  rw [reportOn, Option.bind_map]
  rfl

theorem reportOn_of_declares {specifier : String} (h : Declares s n specifier) :
    reportOn bs s e n = (messageFor? bs specifier).map (s.report n e) := by
  rw [reportOn, declares_iff.mp h, Option.bind_some]

theorem exists_of_reportOn_eq_some {d : Diagnostic} (h : reportOn bs s e n = some d) :
    ∃ specifier message, Declares s n specifier ∧ FirstMessage specifier message bs ∧
      d = s.report n e message := by
  obtain ⟨specifier, hspecifier, h⟩ := Option.bind_eq_some_iff.mp h
  obtain ⟨message, hmessage, rfl⟩ := Option.map_eq_some_iff.mp h
  exact ⟨specifier, message, declares_iff.mpr hspecifier, messageFor?_eq_some_iff.mp hmessage, rfl⟩

theorem isSome_reportOn_iff :
    (reportOn bs s e n).isSome = true ↔ ∃ b ∈ bs, Declares s n b.specifier := by
  constructor
  · intro h
    obtain ⟨d, hd⟩ := Option.isSome_iff_exists.mp h
    obtain ⟨specifier, message, hdeclares, hfirst, -⟩ := exists_of_reportOn_eq_some hd
    have hmem : specifier ∈ bs.map (·.specifier) := by
      rw [← isSome_messageFor?_iff, messageFor?_eq_some_iff.mpr hfirst]
      rfl
    obtain ⟨b, hb, rfl⟩ := List.mem_map.mp hmem
    exact ⟨b, hb, hdeclares⟩
  · rintro ⟨b, hb, hdeclares⟩
    rw [reportOn_of_declares hdeclares, Option.isSome_map, isSome_messageFor?_iff]
    exact List.mem_map_of_mem hb

end

theorem forall₂_filter_filterMap {α β : Type} {f : α → Option β} {p : α → Prop} [DecidablePred p]
    {R : α → β → Prop} (hp : ∀ a, (f a).isSome = true ↔ p a) (hR : ∀ a b, f a = some b → R a b)
    (l : List α) : List.Forall₂ R (l.filter p) (l.filterMap f) := by
  induction l with
  | nil => exact .nil
  | cons a l ih =>
      cases ha : f a with
      | none =>
          have hnot : ¬p a := by
            rw [← hp, ha]
            exact Bool.false_ne_true
          rw [List.filterMap_cons_none ha, List.filter_cons_of_neg (by simpa using hnot)]
          exact ih
      | some b =>
          have hpos : p a := by
            rw [← hp, ha]
            rfl
          rw [List.filterMap_cons_some ha, List.filter_cons_of_pos (by simpa using hpos)]
          exact .cons (hR a b ha) ih

theorem filterMap_extend {α β : Type} {f g : α → Option β} {p : α → Prop} [DecidablePred p]
    {r : α → β} (hnew : ∀ a, p a → f a = none ∧ g a = some (r a)) (hold : ∀ a, ¬p a → g a = f a)
    (l : List α) : (l.filterMap f).Sublist (l.filterMap g) ∧
      (l.filterMap g).Perm (l.filterMap f ++ (l.filter p).map r) := by
  induction l with
  | nil => exact ⟨.slnil, .nil⟩
  | cons a l ih =>
      by_cases ha : p a
      · rw [List.filterMap_cons_none (hnew a ha).1, List.filterMap_cons_some (hnew a ha).2,
          List.filter_cons_of_pos (by simpa using ha), List.map_cons]
        exact ⟨ih.1.cons _, (ih.2.cons _).trans List.perm_middle.symm⟩
      · rw [List.filter_cons_of_neg (by simpa using ha)]
        cases hf : f a with
        | none =>
            rw [List.filterMap_cons_none hf, List.filterMap_cons_none ((hold a ha).trans hf)]
            exact ih
        | some b =>
            rw [List.filterMap_cons_some hf, List.filterMap_cons_some ((hold a ha).trans hf)]
            exact ⟨ih.1.cons_cons _, ih.2.cons _⟩

theorem reportOn_perm {bs bs' : List BannedImport} (h : bs.Perm bs')
    (hnodup : (bs.map (·.specifier)).Nodup) (s : Source) (e : Entry) :
    reportOn bs' s e = reportOn bs s e := by
  funext n
  rw [reportOn, reportOn]
  congr 1
  funext specifier
  rw [messageFor?_perm h hnodup]

theorem reportOn_insert {front back : List BannedImport} {b : BannedImport}
    (h : b.specifier ∉ (front ++ back).map (·.specifier)) (s : Source) (e : Entry) (n : Node) :
    reportOn (front ++ b :: back) s e n =
      if Declares s n b.specifier then some (s.report n e b.message)
      else reportOn (front ++ back) s e n := by
  by_cases hdeclares : Declares s n b.specifier
  · rw [if_pos hdeclares, reportOn_of_declares hdeclares, messageFor?_insert h, if_pos rfl]
    rfl
  · rw [if_neg hdeclares, reportOn, reportOn]
    cases hspecifier : n.importSource?.map s.literal with
    | none => rfl
    | some specifier =>
        have hne : specifier ≠ b.specifier := by
          rintro rfl
          exact hdeclares (declares_iff.mpr hspecifier)
        rw [Option.bind_some, Option.bind_some, messageFor?_insert h, if_neg hne]

/-- The rule reports exactly the declarations of banned specifiers, in pre-order and once each, with
the message of the first item that bans them. Items with distinct specifiers may stand in any order.
An item for a new specifier keeps all reports and adds one for each of its declarations. -/
theorem check_reports_banned_declarations {bs : List BannedImport} (s : Source) {e : Entry}
    (he : e.options = .imports bs) :
    ∃ ds, rule.check s e = .ok ds ∧
      List.Forall₂ (fun n d => ∃ specifier message, Declares s n specifier ∧
          FirstMessage specifier message bs ∧ d = s.report n e message)
        (s.root.preorder.filter fun n => ∃ b ∈ bs, Declares s n b.specifier) ds ∧
      (∀ bs', bs.Perm bs' → (bs.map (·.specifier)).Nodup →
        rule.check s { e with options := .imports bs' } = .ok ds) ∧
      ∀ front b back, front ++ back = bs → b.specifier ∉ bs.map (·.specifier) →
        ∃ ds', rule.check s { e with options := .imports (front ++ b :: back) } = .ok ds' ∧
          ds.Sublist ds' ∧
          ds'.Perm (ds ++ (s.root.preorder.filter fun n => Declares s n b.specifier).map
            fun n => s.report n e b.message) := by
  have hcheck : ∀ bs, rule.check s { e with options := .imports bs } =
      .ok (s.root.preorder.filterMap (reportOn bs s e)) :=
    fun bs => congrArg Except.ok (diagnostics_eq_filterMap bs s e)
  refine ⟨s.root.preorder.filterMap (reportOn bs s e), ?_, ?_, ?_, ?_⟩
  · rw [← hcheck, ← he]
  · exact forall₂_filter_filterMap (fun n => isSome_reportOn_iff)
      (fun n d => exists_of_reportOn_eq_some) _
  · intro bs' hperm hnodup
    rw [hcheck, reportOn_perm hperm hnodup]
  · rintro front b back rfl hnew
    refine ⟨_, hcheck _, filterMap_extend (fun n hn => ⟨?_, ?_⟩) (fun n hn => ?_) _⟩
    · rw [reportOn_of_declares hn, messageFor?_eq_none hnew]
      rfl
    · rw [reportOn_insert hnew, if_pos hn]
    · rw [reportOn_insert hnew, if_neg hn]

/-- A module that is required, a re-export, an import of a longer name, and an import for its
effects. -/
def declarations : Source where
  path := "a.ts"
  content :=
    "import a = require('x');\nexport * from 'y';\nimport 'xy';\nimport 'x';\n".toUTF8.toList
  root :=
    .mk { kind := "program", stop := 69 }
      [.mk { kind := "import_statement", stop := 24 }
        [.mk { kind := "import_require_clause", start := 7, stop := 23 }
          [.mk { kind := "string", start := 19, stop := 22, field := some "source" } []]],
       .mk { kind := "export_statement", start := 25, stop := 43 }
        [.mk { kind := "string", start := 39, stop := 42, field := some "source" } []],
       .mk { kind := "import_statement", start := 44, stop := 56 }
        [.mk { kind := "string", start := 51, stop := 55, field := some "source" } []],
       .mk { kind := "import_statement", start := 57, stop := 68 }
        [.mk { kind := "string", start := 64, stop := 67, field := some "source" } []]]

def entryFor (bs : List BannedImport) : Entry :=
  { ruleId, severity := .error, options := .imports bs }

/-- The module `x` is banned twice, and its first message is reported. A ban of `y` in between adds
the re-export and keeps the rest. -/
theorem check_reports_banned_declarations_requiredTwice :
    ∃ ds ds', rule.check declarations (entryFor [⟨"x", "a"⟩, ⟨"x", "b"⟩]) = .ok ds ∧
      ds.map (fun d => (d.line, d.message)) = [(1, "a"), (4, "a")] ∧
      rule.check declarations (entryFor [⟨"x", "a"⟩, ⟨"y", "c"⟩, ⟨"x", "b"⟩]) = .ok ds' ∧
      ds.Sublist ds' ∧ ds'.map (fun d => (d.line, d.message)) = [(1, "a"), (2, "c"), (4, "a")] := by
  obtain ⟨ds, hds, -, -, hinsert⟩ := check_reports_banned_declarations declarations
    (e := entryFor [⟨"x", "a"⟩, ⟨"x", "b"⟩]) rfl
  obtain ⟨ds', hds', hsublist, -⟩ := hinsert [⟨"x", "a"⟩] ⟨"y", "c"⟩ [⟨"x", "b"⟩] rfl (by decide)
  refine ⟨ds, ds', hds, ?_, hds', hsublist, ?_⟩
  · cases hds
    decide +kernel
  · cases hds'
    decide +kernel

end BoundaryLint.RestrictedImports
