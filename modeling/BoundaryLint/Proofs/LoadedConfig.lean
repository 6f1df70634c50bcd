import BoundaryLint.Config.File
import BoundaryLint.Proofs.Checked

/-!
# Loaded configurations

What a configuration promises once it has been read under a registry: every entry names a rule of
that registry, its severity is one of the three that mean something, and what is ignored altogether
was read from texts.
-/
namespace BoundaryLint

def Severity.IsKnown (s : Severity) : Prop := s = .error ∨ s = .warn ∨ s = .off

namespace Config

theorem isKnown_of_readSeverity {v : Value} {s : Severity} (h : readSeverity v = .ok s) :
    s.IsKnown := by
  unfold readSeverity at h
  split at h
  · split at h <;> simp_all [Severity.IsKnown]
  · repeat' split at h
    all_goals simp_all [Severity.IsKnown]
  · split at h <;> simp_all [Severity.IsKnown]

theorem isKnown_of_readSetting {v : Value} {s : Severity} {raw : List Value}
    (h : readSetting v = .ok (s, raw)) : s.IsKnown := by
  unfold readSetting at h
  split at h
  · cases h
  all_goals
    obtain ⟨t, ht, he⟩ := map_eq_ok_iff.mp h
    obtain ⟨rfl, -⟩ := Prod.mk.inj he
    exact isKnown_of_readSeverity (mapError_eq_ok_iff.mp ht)

/-- An entry that was read names a registered rule, whose reader has seen its options unless the
rule is off and has none. -/
theorem readEntry_eq_ok {registry : Registry} {index : Nat} {block id : String} {setting : Value}
    {e : Entry} (h : readEntry registry index block id setting = .ok e) :
    ∃ rule raw, registry.get? id = some rule ∧ readSetting setting = .ok (e.severity, raw) ∧
      e.ruleId = id ∧ e.blockIndex = index ∧ e.blockName = block ∧
      (if raw.isEmpty && e.severity == .off then e.options = .none
        else rule.readOptions raw = .ok e.options) := by
  unfold readEntry at h
  split at h
  · cases h
  · rename_i rule hrule
    obtain ⟨⟨severity, raw⟩, hs, h⟩ := bind_eq_ok_iff.mp h
    dsimp only at h
    split at h
    · rename_i hoff
      cases h
      exact ⟨rule, raw, hrule, hs, rfl, rfl, rfl, by rw [if_pos hoff]⟩
    · rename_i hoff
      obtain ⟨options, ho, h⟩ := bind_eq_ok_iff.mp h
      cases h
      refine ⟨rule, raw, hrule, hs, rfl, rfl, rfl, ?_⟩
      rw [if_neg hoff]
      exact mapError_eq_ok_iff.mp ho

/-- What holds of an entry that was read under a registry. -/
structure EntryLoaded (registry : Registry) (e : Entry) : Prop where
  registered : registry.contains e.ruleId = true
  known : e.severity.IsKnown

theorem entryLoaded_of_readEntry {registry : Registry} {index : Nat} {block id : String}
    {setting : Value} {e : Entry} (h : readEntry registry index block id setting = .ok e) :
    EntryLoaded registry e := by
  obtain ⟨rule, raw, hrule, hs, hid, -⟩ := readEntry_eq_ok h
  refine ⟨?_, isKnown_of_readSetting hs⟩
  simp [Registry.contains, hid, hrule]

theorem isBlankText_of_readName {index : Nat} {entries : List (Value × Value)} {name : String}
    (h : readName index entries = .ok name) : Text.isBlankText name = false := by
  unfold readName at h
  split at h
  · cases h
    have hfront : (toString "block-").toList.all Text.isBlank = false := by decide
    rw [Text.isBlankText, String.toList_append, List.all_append, hfront, Bool.false_and]
  · split at h
    · cases h
    · rename_i hblank
      cases h
      simpa using hblank
  · cases h

theorem readBlock_eq_ok {registry : Registry} {index : Nat} {data : Value} {b : Block}
    (h : readBlock registry index data = .ok b) :
    b.index = index ∧ Text.isBlankText b.name = false ∧
      ∀ e ∈ b.rules, ∃ id setting, readEntry registry index b.name id setting = .ok e := by
  unfold readBlock at h
  split at h
  · obtain ⟨name, hname, h⟩ := bind_eq_ok_iff.mp h
    have hblank := isBlankText_of_readName hname
    split at h
    · cases h
    · obtain ⟨files, -, h⟩ := bind_eq_ok_iff.mp h
      obtain ⟨ignores, -, h⟩ := bind_eq_ok_iff.mp h
      split at h
      · cases h
        exact ⟨rfl, hblank, by simp⟩
      · obtain ⟨rules, hr, h⟩ := bind_eq_ok_iff.mp h
        cases h
        refine ⟨rfl, hblank, fun e he => ?_⟩
        obtain ⟨⟨key, setting⟩, -, hread⟩ := exists_of_mapM_eq_ok hr he
        exact ⟨key.plain, setting, mapError_eq_ok_iff.mp hread⟩
      · cases h
  · cases h

theorem readBlocks_cons_eq_ok {registry : Registry} {index : Nat} {names : List String} {v : Value}
    {vs : List Value} {bs : List Block} (h : readBlocks registry index names (v :: vs) = .ok bs) :
    ∃ b rest, bs = b :: rest ∧ readBlock registry index v = .ok b ∧ b.name ∉ names ∧
      readBlocks registry (index + 1) (b.name :: names) vs = .ok rest := by
  unfold readBlocks at h
  obtain ⟨b, hb, h⟩ := bind_eq_ok_iff.mp h
  split at h
  · cases h
  · rename_i hname
    obtain ⟨rest, hrest, h⟩ := bind_eq_ok_iff.mp h
    cases h
    exact ⟨b, rest, rfl, hb, by simpa using hname, hrest⟩

section
variable {registry : Registry} {index : Nat} {names : List String} {vs : List Value}
  {bs : List Block}

theorem exists_readBlock_of_readBlocks (h : readBlocks registry index names vs = .ok bs) :
    ∀ b ∈ bs, ∃ i data, readBlock registry i data = .ok b := by
  induction vs generalizing index names bs with
  | nil =>
      cases h
      simp
  | cons v vs ih =>
      obtain ⟨b, rest, rfl, hb, -, hrest⟩ := readBlocks_cons_eq_ok h
      intro c hc
      rcases List.mem_cons.mp hc with rfl | hc
      · exact ⟨index, v, hb⟩
      · exact ih hrest c hc

theorem entryLoaded_of_readBlocks (h : readBlocks registry index names vs = .ok bs) :
    ∀ b ∈ bs, ∀ e ∈ b.rules, EntryLoaded registry e := by
  intro b hb e he
  obtain ⟨i, data, hread⟩ := exists_readBlock_of_readBlocks h b hb
  obtain ⟨-, -, hentries⟩ := readBlock_eq_ok hread
  obtain ⟨id, setting, hentry⟩ := hentries e he
  exact entryLoaded_of_readEntry hentry

end

/-- The parts of a configuration that was read. -/
theorem ofValue_eq_ok {registry : Registry} {data : Value} {c : Config}
    (h : ofValue registry data = .ok c) :
    ∃ label entries, data = .map label entries ∧ readVersion entries = .ok c.version ∧
      readIgnores entries = .ok c.ignores ∧
      (c.blocks = [] ∨ ∃ vs, readBlocks registry 0 [] vs = .ok c.blocks) := by
  have hread := mapError_eq_ok_iff.mp h
  unfold read at hread
  split at hread
  · rename_i label entries
    obtain ⟨version, hversion, hread⟩ := bind_eq_ok_iff.mp hread
    obtain ⟨ignores, hignores, hread⟩ := bind_eq_ok_iff.mp hread
    split at hread
    · cases hread
      exact ⟨label, entries, rfl, hversion, hignores, .inl rfl⟩
    · rename_i vs _
      obtain ⟨blocks, hblocks, hread⟩ := bind_eq_ok_iff.mp hread
      cases hread
      exact ⟨label, entries, rfl, hversion, hignores, .inr ⟨vs, hblocks⟩⟩
    · cases hread
  · cases hread

theorem entryLoaded_of_ofValue {registry : Registry} {data : Value} {c : Config}
    (h : ofValue registry data = .ok c) :
    ∀ b ∈ c.blocks, ∀ e ∈ b.rules, EntryLoaded registry e := by
  obtain ⟨_, _, -, -, -, hnil | ⟨vs, hblocks⟩⟩ := ofValue_eq_ok h
  · simp [hnil]
  · exact entryLoaded_of_readBlocks hblocks

/-! ### Ignores -/

theorem exists_map_str {vs : List Value} (h : ∀ v ∈ vs, ∃ t, v = .str t) :
    ∃ texts : List String, texts.map Value.str = vs := by
  induction vs with
  | nil => exact ⟨[], rfl⟩
  | cons v vs ih =>
      obtain ⟨t, rfl⟩ := h v List.mem_cons_self
      obtain ⟨texts, rfl⟩ := ih fun v hv => h v (List.mem_cons_of_mem _ hv)
      exact ⟨t :: texts, rfl⟩

/-- A list of globs consists of texts, and they are read as such. -/
theorem exists_texts_of_readGlobs {required : Bool} {label : Option Value.Identity}
    {vs : List Value} {s : GlobSet} (h : readGlobs required (.list label vs) = .ok s) :
    ∃ texts : List String, texts.map Value.str = vs ∧ GlobSet.ofTexts texts = .ok s := by
  unfold readGlobs at h
  dsimp only at h
  split at h
  · cases h
  · split at h
    · cases h
    · rename_i hnone
      split at h
      · rename_i hvalues
        cases h
        have hstr : ∀ v ∈ vs, ∃ t, v = .str t := by
          intro v hv
          have := List.find?_eq_none.mp hnone v hv
          split at this
          · exact ⟨_, rfl⟩
          · simp at this
        obtain ⟨texts, rfl⟩ := exists_map_str hstr
        refine ⟨texts, rfl, ?_⟩
        rw [← hvalues, GlobSet.ofValues, GlobSet.ofTexts, List.mapM_map]
        rfl
      · cases h

/-- The globs that configuration data gives to be ignored altogether, in order. -/
def GivesIgnores (entries : List (Value × Value)) (given : List String) : Prop :=
  match Value.find? entries "ignores" with
  | none => given = []
  | some (.str s) => given = [s]
  | some (.list _ vs) => given.map Value.str = vs
  | some _ => False

/-- Texts behind the default ignores are those of the values behind them. -/
theorem exists_given {vs : List Value} {texts : List String}
    (h : texts.map Value.str = Resolver.defaultIgnores.map .str ++ vs) :
    ∃ given : List String, given.map Value.str = vs ∧ texts = Resolver.defaultIgnores ++ given := by
  obtain ⟨front, given, rfl, hfront, hgiven⟩ := List.map_eq_append_iff.mp h
  have hinj : Function.Injective Value.str := fun _ _ => Value.str.inj
  rw [List.map_injective_iff.mpr hinj hfront]
  exact ⟨given, hgiven, rfl⟩

/-- The default ignores come before those that the data gives. -/
theorem readIgnores_eq_ok {entries : List (Value × Value)} {s : GlobSet}
    (h : readIgnores entries = .ok s) :
    ∃ given, GivesIgnores entries given ∧
      GlobSet.ofTexts (Resolver.defaultIgnores ++ given) = .ok s := by
  unfold readIgnores at h
  unfold GivesIgnores
  cases hfound : givenIgnores (Value.find? entries "ignores") with
  | none =>
      rw [hfound] at h
      cases h
  | some vs =>
      rw [hfound] at h
      obtain ⟨texts, htexts, hok⟩ := exists_texts_of_readGlobs (mapError_eq_ok_iff.mp h)
      obtain ⟨given, hgiven, rfl⟩ := exists_given htexts
      refine ⟨given, ?_, hok⟩
      generalize Value.find? entries "ignores" = found at hfound ⊢
      unfold givenIgnores at hfound
      split at hfound
      · cases hfound
        exact List.map_eq_nil_iff.mp hgiven
      · cases hfound
        obtain ⟨t, rfl, ht⟩ := List.map_eq_singleton_iff.mp hgiven
        exact congrArg (fun u => [u]) (Value.str.inj ht)
      · cases hfound
        exact hgiven
      · cases hfound

theorem exists_texts_of_ofValue {registry : Registry} {data : Value} {c : Config}
    (h : ofValue registry data = .ok c) : ∃ texts, GlobSet.ofTexts texts = .ok c.ignores := by
  obtain ⟨_, entries, -, -, hignores, -⟩ := ofValue_eq_ok h
  obtain ⟨given, -, hok⟩ := readIgnores_eq_ok hignores
  exact ⟨_, hok⟩

/-! ### Origins -/

/-- Data and files are read; a configuration that is ready has been read elsewhere. -/
def Origin.IsRead : Origin → Prop
  | .ready _ => False
  | _ => True

theorem exists_data_of_load {registry : Registry} {loader : Loader} {origin : Origin} {c : Config}
    (hread : origin.IsRead) (h : origin.load registry loader = .ok c) :
    ∃ data, ofValue registry data = .ok c := by
  unfold Origin.load at h
  split at h
  · cases hread
  · exact ⟨_, mapError_eq_ok_iff.mp h⟩
  · cases h
  · have hbytes := mapError_eq_ok_iff.mp h
    unfold ofBytes at hbytes
    split at hbytes
    · cases hbytes
    · exact ⟨_, mapError_eq_ok_iff.mp hbytes⟩

end Config

end BoundaryLint
