import BoundaryLint.Proofs.CoveredDirectories
import BoundaryLint.Proofs.TaskOutcomes

/-!
# Well-formed configurations

A configuration that was read has its blocks numbered in order, under names that are not blank and
all different, and each entry belongs to its block. With the built-in rules every entry that is not
off has the options that its rule needs. So when files are analyzed with the registry under which
the configuration was read, no rule in force is unknown, and no built-in rule crashes.
-/
namespace BoundaryLint

/-! ### Options of the built-in rules -/

/-- The options are those that the built-in rule with the id of the entry takes. -/
structure Entry.OptionsFit (e : Entry) : Prop where
  imports : e.ruleId = RestrictedImports.ruleId → e.severity ≠ .off →
    ∃ bs, bs ≠ [] ∧ e.options = .imports bs
  selectors : e.ruleId = RestrictedSyntax.ruleId → e.severity ≠ .off →
    ∃ bs, bs ≠ [] ∧ e.options = .selectors bs
  others : e.ruleId ≠ RestrictedImports.ruleId → e.ruleId ≠ RestrictedSyntax.ruleId →
    e.options = .none

theorem RestrictedImports.exists_of_readOptions {raw : List Value} {o : Options}
    (h : readOptions raw = .ok o) : ∃ bs, bs ≠ [] ∧ o = .imports bs := by
  unfold readOptions at h
  split at h
  · cases h
  · cases h
  · rename_i bs hne _
    cases h
    exact ⟨bs, fun hnil => hne hnil, rfl⟩

theorem RestrictedSyntax.exists_of_readOptions {known : String → Bool} {raw : List Value}
    {o : Options} (h : readOptions known raw = .ok o) : ∃ bs, bs ≠ [] ∧ o = .selectors bs := by
  unfold readOptions at h
  split at h
  · cases h
  · cases h
  · rename_i bs hne _
    cases h
    exact ⟨bs, fun hnil => hne hnil, rfl⟩

theorem NodeRule.eq_none_of_readNoOptions {id : String} {raw : List Value} {o : Options}
    (h : readNoOptions id raw = .ok o) : o = .none := by
  unfold readNoOptions at h
  split at h
  · cases h
    rfl
  · cases h

namespace Registry

/-- A built-in rule bans imports, bans syntax or judges nodes, and its id tells which. -/
theorem builtin_cases {id : String} {rule : Rule} (h : builtin.get? id = some rule) :
    (id = RestrictedImports.ruleId ∧ rule = RestrictedImports.rule) ∨
      (id = RestrictedSyntax.ruleId ∧ rule = RestrictedSyntax.rule Kind.isKnown) ∨
      (id ≠ RestrictedImports.ruleId ∧ id ≠ RestrictedSyntax.ruleId ∧
        ∃ r : NodeRule, rule = r.rule) := by
  have hid : rule.id = id := by simpa using List.find?_some h
  have hmem : rule ∈ builtin.rules := List.mem_of_find?_eq_some h
  simp only [builtin, List.mem_cons, List.not_mem_nil, or_false] at hmem
  subst hid
  rcases hmem with rfl | rfl | rfl | rfl | rfl | rfl | rfl | rfl
  · exact .inl ⟨rfl, rfl⟩
  · exact .inr (.inl ⟨rfl, rfl⟩)
  all_goals exact .inr (.inr ⟨by decide, by decide, _, rfl⟩)

end Registry

/-- With options that fit, a built-in rule that is not off comes to an end on every source. -/
theorem Entry.OptionsFit.exists_found {e : Entry} (h : e.OptionsFit) (hoff : e.severity ≠ .off)
    (hreg : Registry.builtin.contains e.ruleId = true) (s : Source) :
    ∃ ds, Inspection.runRule .builtin s e = .found ds := by
  obtain ⟨rule, hrule⟩ := Option.isSome_iff_exists.mp hreg
  have hcheck : ∃ ds, rule.check s e = .ok ds := by
    rcases Registry.builtin_cases hrule with ⟨hid, rfl⟩ | ⟨hid, rfl⟩ | ⟨-, -, r, rfl⟩
    · obtain ⟨bs, -, hbs⟩ := h.imports hid hoff
      exact ⟨RestrictedImports.diagnostics bs s e,
        by simp only [RestrictedImports.rule, RestrictedImports.check, hbs]⟩
    · obtain ⟨bs, -, hbs⟩ := h.selectors hid hoff
      exact ⟨RestrictedSyntax.diagnostics bs s e,
        by simp only [RestrictedSyntax.rule, RestrictedSyntax.check, hbs]⟩
    · exact ⟨_, rfl⟩
  obtain ⟨ds, hds⟩ := hcheck
  exact ⟨ds, by simp only [Inspection.runRule, hrule, hds]⟩

namespace Config

theorem optionsFit_of_readEntry {index : Nat} {block id : String} {setting : Value} {e : Entry}
    (h : readEntry .builtin index block id setting = .ok e) : e.OptionsFit := by
  obtain ⟨rule, raw, hrule, -, hid, -, -, hoptions⟩ := readEntry_eq_ok h
  rw [← hid] at hrule
  -- An entry that is off may go without options. Otherwise the reader of its rule has seen them.
  have hread : e.severity ≠ .off → rule.readOptions raw = .ok e.options := by
    intro hoff
    rwa [if_neg (by simp [hoff])] at hoptions
  rcases Registry.builtin_cases hrule with ⟨hid, rfl⟩ | ⟨hid, rfl⟩ | ⟨hne, hne', r, rfl⟩
  · refine ⟨fun _ hoff => RestrictedImports.exists_of_readOptions (hread hoff), ?_, ?_⟩
    · intro hsyntax
      rw [hid] at hsyntax
      exact absurd hsyntax (by decide)
    · exact fun hne => absurd hid hne
  · refine ⟨?_, fun _ hoff => RestrictedSyntax.exists_of_readOptions (hread hoff), ?_⟩
    · intro himports
      rw [hid] at himports
      exact absurd himports (by decide)
    · exact fun _ hne => absurd hid hne
  · refine ⟨fun himports => absurd himports hne, fun hsyntax => absurd hsyntax hne', ?_⟩
    intro _ _
    split at hoptions
    · exact hoptions
    · exact NodeRule.eq_none_of_readNoOptions hoptions

/-! ### Blocks -/

section
variable {registry : Registry} {index : Nat} {names : List String} {vs : List Value}
  {bs : List Block}

theorem index_of_readBlocks (h : readBlocks registry index names vs = .ok bs) {i : Nat} {b : Block}
    (hb : bs[i]? = some b) : b.index = index + i := by
  induction vs generalizing index names bs i with
  | nil =>
      cases h
      simp at hb
  | cons v vs ih =>
      obtain ⟨c, rest, rfl, hc, -, hrest⟩ := readBlocks_cons_eq_ok h
      cases i with
      | zero =>
          obtain rfl : c = b := by simpa using hb
          simpa using (readBlock_eq_ok hc).1
      | succ i =>
          have hnext := ih hrest (i := i) (by simpa using hb)
          push_cast at hnext ⊢
          omega

theorem name_notMem_of_readBlocks (h : readBlocks registry index names vs = .ok bs) :
    ∀ b ∈ bs, b.name ∉ names := by
  induction vs generalizing index names bs with
  | nil =>
      cases h
      simp
  | cons v vs ih =>
      obtain ⟨c, rest, rfl, -, hname, hrest⟩ := readBlocks_cons_eq_ok h
      intro b hb
      rcases List.mem_cons.mp hb with rfl | hb
      · exact hname
      · exact fun hmem => ih hrest b hb (List.mem_cons_of_mem _ hmem)

theorem nodup_names_of_readBlocks (h : readBlocks registry index names vs = .ok bs) :
    (bs.map (·.name)).Nodup := by
  induction vs generalizing index names bs with
  | nil =>
      cases h
      exact List.nodup_nil
  | cons v vs ih =>
      obtain ⟨c, rest, rfl, -, -, hrest⟩ := readBlocks_cons_eq_ok h
      rw [List.map_cons, List.nodup_cons]
      refine ⟨fun hmem => ?_, ih hrest⟩
      obtain ⟨b, hb, hname⟩ := List.mem_map.mp hmem
      exact name_notMem_of_readBlocks hrest b hb (by simp [hname])

end

/-- What holds of a configuration that was read under a registry. -/
structure WellFormed (registry : Registry) (c : Config) : Prop where
  indexed : ∀ (i : Nat) b, c.blocks[i]? = some b → b.index = i
  named : ∀ b ∈ c.blocks, Text.isBlankText b.name = false
  distinct : (c.blocks.map (·.name)).Nodup
  owned : ∀ b ∈ c.blocks, ∀ e ∈ b.rules, e.blockIndex = b.index ∧ e.blockName = b.name
  loaded : ∀ b ∈ c.blocks, ∀ e ∈ b.rules, EntryLoaded registry e

theorem wellFormed_of_readBlocks {registry : Registry} {vs : List Value} {c : Config}
    (h : readBlocks registry 0 [] vs = .ok c.blocks) : c.WellFormed registry where
  indexed i b hb := by simpa using index_of_readBlocks h hb
  named b hb := by
    obtain ⟨i, data, hread⟩ := exists_readBlock_of_readBlocks h b hb
    exact (readBlock_eq_ok hread).2.1
  distinct := nodup_names_of_readBlocks h
  owned b hb e he := by
    obtain ⟨i, data, hread⟩ := exists_readBlock_of_readBlocks h b hb
    obtain ⟨hindex, -, hentries⟩ := readBlock_eq_ok hread
    obtain ⟨id, setting, hentry⟩ := hentries e he
    obtain ⟨-, -, -, -, -, hblock, hname, -⟩ := readEntry_eq_ok hentry
    exact ⟨hblock.trans hindex.symm, hname⟩
  loaded := entryLoaded_of_readBlocks h

theorem WellFormed.resolver_eq {registry : Registry} {c : Config} (h : c.WellFormed registry) :
    c.resolver = { blocks := c.blocks, ignores := c.ignores } := by
  have hsorted : c.blocks.Pairwise fun a b => decide (a.index ≤ b.index) = true := by
    rw [List.pairwise_iff_getElem]
    intro i j hi hj hij
    have hleft := h.indexed i _ (List.getElem?_eq_getElem hi)
    have hright := h.indexed j _ (List.getElem?_eq_getElem hj)
    rw [decide_eq_true_iff, hleft, hright]
    omega
  rw [Config.resolver, Resolver.ofBlocks, List.mergeSort_of_pairwise hsorted]

/-- The blocks of a configuration that was read come from a list of values, which is empty if the
data has no blocks. -/
theorem exists_readBlocks_of_ofValue {registry : Registry} {data : Value} {c : Config}
    (h : ofValue registry data = .ok c) : ∃ vs, readBlocks registry 0 [] vs = .ok c.blocks := by
  obtain ⟨_, _, -, -, -, hnil | hblocks⟩ := ofValue_eq_ok h
  · exact ⟨[], by rw [hnil]; rfl⟩
  · exact hblocks

theorem optionsFit_of_ofValue {data : Value} {c : Config} (h : ofValue .builtin data = .ok c) :
    ∀ b ∈ c.blocks, ∀ e ∈ b.rules, e.OptionsFit := by
  intro b hb e he
  obtain ⟨vs, hblocks⟩ := exists_readBlocks_of_ofValue h
  obtain ⟨i, value, hread⟩ := exists_readBlock_of_readBlocks hblocks b hb
  obtain ⟨-, -, hentries⟩ := readBlock_eq_ok hread
  obtain ⟨id, setting, hentry⟩ := hentries e he
  exact optionsFit_of_readEntry hentry

/-! ### Entries in force -/

theorem mem_blocks_of_mem_active {c : Config} {path : String} {b : Block} {e : Entry}
    (h : (b, e) ∈ c.resolver.active path) : b ∈ c.blocks ∧ e ∈ b.rules ∧ e.severity ≠ .off := by
  obtain ⟨hb, -, he, hoff⟩ := Resolver.of_mem_active h
  exact ⟨(Resolver.blocks_stablySorted _ c.ignores).perm.mem_iff.mp hb, he, hoff⟩

/-- A configuration that was read is well formed, and it ignores the default globs and then those of
the data. Every rule in force is registered. With the built-in rules the options fit, and every rule
in force comes to an end on every source. -/
theorem wellFormed_of_ofValue {registry : Registry} {data : Value} {c : Config}
    (h : ofValue registry data = .ok c) :
    c.WellFormed registry ∧
      (∃ label entries given, data = .map label entries ∧ GivesIgnores entries given ∧
        c.ignores.patterns = Resolver.defaultIgnores ++ given) ∧
      (∀ path b e, (b, e) ∈ c.resolver.active path →
        ∀ s, Inspection.runRule registry s e ≠ .notRegistered) ∧
      (registry = .builtin →
        (∀ b ∈ c.blocks, ∀ e ∈ b.rules, e.OptionsFit) ∧
        ∀ path b e, (b, e) ∈ c.resolver.active path →
          ∀ s, ∃ ds, Inspection.runRule .builtin s e = .found ds) := by
  obtain ⟨vs, hblocks⟩ := exists_readBlocks_of_ofValue h
  have hwell := wellFormed_of_readBlocks hblocks
  refine ⟨hwell, ?_, ?_, ?_⟩
  · obtain ⟨label, entries, hdata, -, hignores, -⟩ := ofValue_eq_ok h
    obtain ⟨given, hgiven, hok⟩ := readIgnores_eq_ok hignores
    exact ⟨label, entries, given, hdata, hgiven, (GlobSet.ofTexts_eq_ok hok).1⟩
  · intro path b e hmem s
    obtain ⟨hb, he, -⟩ := mem_blocks_of_mem_active hmem
    exact Run.runRule_ne_notRegistered (hwell.loaded b hb e he).registered
  · rintro rfl
    have hfit := optionsFit_of_ofValue h
    refine ⟨hfit, fun path b e hmem s => ?_⟩
    obtain ⟨hb, he, hoff⟩ := mem_blocks_of_mem_active hmem
    exact (hfit b hb e he).exists_found hoff (hwell.loaded b hb e he).registered s

/-! ### A configuration with two blocks -/

def twoBlocks : Value :=
  .map none [(.str "version", .int 1), (.str "ignores", .str "dist/**"),
    (.str "blocks", .ofList
      [.map none [(.str "files", .str "**"), (.str "rules", .map none
        [(.str "no-restricted-imports", .ofList [.str "error", .str "fs"]),
          (.str "no-localstorage", .int 1)])],
        .map none [(.str "name", .str "tests"), (.str "files", .ofList [.str "test/**"]),
          (.str "rules", .map none [(.str "no-localstorage", .bool false)])]])]

theorem wellFormed_of_ofValue_twoBlocks :
    ∃ c, ofValue .builtin twoBlocks = .ok c ∧ c.WellFormed .builtin ∧ c.blocks.length = 2 ∧
      c.ignores.patterns = ["**/node_modules/**", "**/.git/**", "dist/**"] ∧
      (c.resolver.active "test/a.ts").length = 1 ∧
      ∀ b e, (b, e) ∈ c.resolver.active "test/a.ts" →
        e.OptionsFit ∧ ∀ s, ∃ ds, Inspection.runRule .builtin s e = .found ds := by
  have hshape : (ofValue .builtin twoBlocks).toOption.map (fun c =>
      (c.blocks.length, (Resolver.active ⟨c.blocks, c.ignores⟩ "test/a.ts").length)) =
      some (2, 1) := by
    decide +kernel
  cases h : ofValue .builtin twoBlocks with
  | error e => rw [h] at hshape; cases hshape
  | ok c =>
      rw [h] at hshape
      obtain ⟨hlength, hactive⟩ := Prod.mk.inj (Option.some.inj hshape)
      obtain ⟨hwell, ⟨label, entries, given, hdata, hgiven, hpatterns⟩, -, hbuiltin⟩ :=
        wellFormed_of_ofValue h
      obtain ⟨hfit, hfound⟩ := hbuiltin rfl
      cases hdata
      have hdist : given = ["dist/**"] := hgiven
      refine ⟨c, rfl, hwell, hlength, by rw [hpatterns, hdist]; rfl,
        by rw [hwell.resolver_eq]; exact hactive, fun b e hmem => ?_⟩
      obtain ⟨hb, he, -⟩ := mem_blocks_of_mem_active hmem
      exact ⟨hfit b hb e he, hfound _ b e hmem⟩

end Config

end BoundaryLint
