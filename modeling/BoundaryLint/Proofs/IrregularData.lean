import BoundaryLint.Config.Schema
import BoundaryLint.Proofs.Checked

/-!
# Data that is refused out of turn

Configuration data is refused by an error that says what is wrong with it. Such an error shows
values that are parts of the data, and it is raised past those who report a refusal in three cases
only: the version is a collection, an integer that would be shown has too many digits, or a rule
refuses its options out of turn. Among the built-in rules the last happens with selectors alone.
-/
namespace BoundaryLint

namespace Value

/-! ### Parts of a value -/

/-- A value in a value, which may be that value itself. -/
inductive IsPart (v : Value) : Value → Prop
  | self : IsPart v v
  | item {label : Option Identity} {items : List Value} {u : Value} :
      u ∈ items → IsPart v u → IsPart v (.list label items)
  | first {label : Option Identity} {a b : Value} : IsPart v a → IsPart v (.pair label a b)
  | second {label : Option Identity} {a b : Value} : IsPart v b → IsPart v (.pair label a b)
  | member {members : List Value} {u : Value} :
      u ∈ members → IsPart v u → IsPart v (.set members)
  | key {label : Option Identity} {entries : List (Value × Value)} {e : Value × Value} :
      e ∈ entries → IsPart v e.1 → IsPart v (.map label entries)
  | value {label : Option Identity} {entries : List (Value × Value)} {e : Value × Value} :
      e ∈ entries → IsPart v e.2 → IsPart v (.map label entries)

theorem IsPart.trans {u v w : Value} (huv : u.IsPart v) (hvw : v.IsPart w) : u.IsPart w := by
  induction hvw with
  | self => exact huv
  | item hmem _ ih => exact .item hmem ih
  | first _ ih => exact .first ih
  | second _ ih => exact .second ih
  | member hmem _ ih => exact .member hmem ih
  | key hmem _ ih => exact .key hmem ih
  | value hmem _ ih => exact .value hmem ih

theorem isPart_of_find? {entries : List (Value × Value)} {key : String} {v : Value}
    (h : find? entries key = some v) (label : Option Identity) :
    v.IsPart (.map label entries) := by
  unfold find? at h
  obtain ⟨e, he, rfl⟩ := Option.map_eq_some_iff.mp h
  exact .value (List.mem_of_find?_eq_some he) .self

/-- A value holds an integer that messages cannot show. -/
def HasLongInteger (v : Value) : Prop :=
  ∃ n, (Value.int n).IsPart v ∧ Number.isShowable n = false

theorem HasLongInteger.of_part {v w : Value} (h : v.HasLongInteger) (hvw : v.IsPart w) :
    w.HasLongInteger := by
  obtain ⟨n, hn, hlong⟩ := h
  exact ⟨n, hn.trans hvw, hlong⟩

theorem exists_none_of_unlessInside {around : List Identity} {label : Option Identity}
    {dots : String} {text : List Identity → Option String}
    (h : unlessInside around label dots text = none) : ∃ around', text around' = none := by
  unfold unlessInside at h
  split at h
  · exact ⟨_, h⟩
  · split at h
    · cases h
    · exact ⟨_, h⟩

theorem hasLongInteger_int {n : Int} {around : List Identity}
    (h : shownIn around (.int n) = none) : (Value.int n).HasLongInteger := by
  refine ⟨n, .self, ?_⟩
  rw [shownIn] at h
  split at h
  · cases h
  · exact Bool.eq_false_iff.mpr ‹_›

theorem itemsShown_of_some {around : List Identity} {v : Value} {vs : List Value} {t : String}
    (hv : shownIn around v = some t) (h : itemsShown around (v :: vs) = none) :
    itemsShown around vs = none := by
  cases hrest : itemsShown around vs with
  | none => rfl
  | some ts => simp [itemsShown, hv, hrest] at h

theorem entriesShown_of_some {around : List Identity} {k v : Value} {es : List (Value × Value)}
    {key value : String} (hk : shownIn around k = some key) (hv : shownIn around v = some value)
    (h : entriesShown around ((k, v) :: es) = none) : entriesShown around es = none := by
  cases hrest : entriesShown around es with
  | none => rfl
  | some ts => simp [entriesShown, hk, hv, hrest] at h

mutual

theorem hasLongInteger_of_shownIn (v : Value) (around : List Identity)
    (h : shownIn around v = none) : v.HasLongInteger := by
  cases v with
  | int n => exact hasLongInteger_int h
  | list label items =>
      rw [shownIn] at h
      obtain ⟨around', h⟩ := exists_none_of_unlessInside h
      obtain ⟨u, hu, hlong⟩ := exists_of_itemsShown items around' (Option.map_eq_none_iff.mp h)
      exact hlong.of_part (.item hu .self)
  | pair label a b =>
      rw [shownIn] at h
      obtain ⟨around', h⟩ := exists_none_of_unlessInside h
      cases ha : shownIn around' a with
      | none => exact (hasLongInteger_of_shownIn a around' ha).of_part (.first .self)
      | some first =>
          cases hb : shownIn around' b with
          | none => exact (hasLongInteger_of_shownIn b around' hb).of_part (.second .self)
          | some second => simp [ha, hb] at h
  | set members =>
      cases members with
      | nil => simp [shownIn] at h
      | cons u us =>
          rw [shownIn] at h
          · have hnone := Option.map_eq_none_iff.mp h
            obtain ⟨u, hu, hlong⟩ := exists_of_itemsShown (u :: us) around hnone
            exact hlong.of_part (.member hu .self)
          · simp
  | map label entries =>
      rw [shownIn] at h
      obtain ⟨around', h⟩ := exists_none_of_unlessInside h
      exact hasLongInteger_of_entriesShown label entries around' (Option.map_eq_none_iff.mp h)
  | _ => simp [shownIn] at h

theorem exists_of_itemsShown (vs : List Value) (around : List Identity)
    (h : itemsShown around vs = none) : ∃ u ∈ vs, u.HasLongInteger := by
  cases vs with
  | nil => simp [itemsShown] at h
  | cons v vs =>
      cases hv : shownIn around v with
      | none => exact ⟨v, List.mem_cons_self, hasLongInteger_of_shownIn v around hv⟩
      | some t =>
          have hrest := itemsShown_of_some hv h
          obtain ⟨u, hu, hlong⟩ := exists_of_itemsShown vs around hrest
          exact ⟨u, List.mem_cons_of_mem _ hu, hlong⟩

theorem hasLongInteger_of_entriesShown (label : Option Identity) (es : List (Value × Value))
    (around : List Identity) (h : entriesShown around es = none) :
    (Value.map label es).HasLongInteger := by
  cases es with
  | nil => simp [entriesShown] at h
  | cons e es =>
      obtain ⟨k, v⟩ := e
      cases hk : shownIn around k with
      | none =>
          exact (hasLongInteger_of_shownIn k around hk).of_part (.key List.mem_cons_self .self)
      | some key =>
          cases hv : shownIn around v with
          | none =>
              have hlong := hasLongInteger_of_shownIn v around hv
              exact hlong.of_part (.value List.mem_cons_self .self)
          | some value =>
              have hrest := entriesShown_of_some hk hv h
              obtain ⟨n, hn, hlong⟩ := hasLongInteger_of_entriesShown label es around hrest
              refine ⟨n, ?_, hlong⟩
              cases hn with
              | key hmem hpart => exact .key (List.mem_cons_of_mem _ hmem) hpart
              | value hmem hpart => exact .value (List.mem_cons_of_mem _ hmem) hpart

end

/-- The values that cannot be keys. -/
inductive IsCollection : Value → Prop
  | list {label : Option Identity} {items : List Value} : IsCollection (.list label items)
  | set {members : List Value} : IsCollection (.set members)
  | map {label : Option Identity} {entries : List (Value × Value)} :
      IsCollection (.map label entries)
  | first {label : Option Identity} {a b : Value} : IsCollection a → IsCollection (.pair label a b)
  | second {label : Option Identity} {a b : Value} : IsCollection b → IsCollection (.pair label a b)

end Value

namespace Config

/-- The version in configuration data is a collection other than a set. -/
def VersionIsCollection (data : Value) : Prop :=
  ∃ label entries v, data = .map label entries ∧ Value.find? entries "version" = some v ∧
    v.IsCollection ∧ ∀ members, v ≠ .set members

/-- A rule refuses options that stand in the data. -/
def OptionsRefused (registry : Registry) (data : Value) (f : OptionFault) : Prop :=
  ∃ rule ∈ registry.rules, ∃ raw, (∀ v ∈ raw, v.IsPart data) ∧ rule.readOptions raw = .error f

/-- Configuration data that may be refused out of turn. -/
inductive IrregularData (registry : Registry) (data : Value) : Prop
  | version : VersionIsCollection data → IrregularData registry data
  | integer : data.HasLongInteger → IrregularData registry data
  | options {f : OptionFault} :
      OptionsRefused registry data f → f.escapes = true → IrregularData registry data

/-! ### What errors say -/

section
variable {registry : Registry} {data part : Value}

theorem OptionsRefused.of_part {f : OptionFault} (h : OptionsRefused registry part f)
    (hpart : part.IsPart data) : OptionsRefused registry data f := by
  obtain ⟨rule, hrule, raw, hraw, hf⟩ := h
  exact ⟨rule, hrule, raw, fun v hv => (hraw v hv).trans hpart, hf⟩

structure SettingFault.ArisesIn (registry : Registry) (data : Value) (f : SettingFault) : Prop where
  values : ∀ v ∈ f.values, v.IsPart data
  options : ∀ g, f = .options g → OptionsRefused registry data g

/-- An error about the data that is not about its version as a key. -/
structure Error.ArisesIn (registry : Registry) (data : Value) (e : Error) : Prop where
  values : ∀ v ∈ e.values, v.IsPart data
  escapes : e.escapes = true → ∃ f, OptionsRefused registry data f ∧ f.escapes = true

theorem Error.ArisesIn.of_part {e : Error} (h : e.ArisesIn registry part)
    (hpart : part.IsPart data) : e.ArisesIn registry data := by
  refine ⟨fun v hv => (h.values v hv).trans hpart, fun he => ?_⟩
  obtain ⟨f, hf, hescapes⟩ := h.escapes he
  exact ⟨f, hf.of_part hpart, hescapes⟩

end

end Config

/-! ### Options of the built-in rules -/

/-- A value holds a selector that is refused out of turn, given the kinds that are known. -/
def Value.HasExcessiveSelector (known : String → Bool) (v : Value) : Prop :=
  ∃ s e, (Value.str s).IsPart v ∧ Selector.parseWith known s = .error e ∧ e.escapes = true

theorem Value.HasExcessiveSelector.of_part {known : String → Bool} {v w : Value}
    (h : v.HasExcessiveSelector known) (hvw : v.IsPart w) : w.HasExcessiveSelector known := by
  obtain ⟨s, e, hs, he⟩ := h
  exact ⟨s, e, hs.trans hvw, he⟩

theorem RestrictedImports.meets_readItem (v : Value) :
    Meets (readItem v) (fun _ => True) (·.escapes = false) := by
  have hbanned : ∀ s m, Meets (banned s m) (fun _ => True) (·.escapes = false) := by
    intro s m
    unfold banned
    split
    · rfl
    · trivial
  unfold readItem
  split
  · exact hbanned _ _
  · split
    · split
      · exact hbanned _ _
      · exact hbanned _ _
      · rfl
    · rfl
  · rfl

theorem RestrictedImports.meets_readOption (v : Value) :
    Meets (readOption v) (fun _ => True) (·.escapes = false) := by
  unfold readOption
  split
  · split
    · exact Meets.mapM_fault fun v _ => meets_readItem v
    · rfl
    · exact Meets.map (meets_readItem _)
  · exact Meets.map (meets_readItem _)

theorem RestrictedSyntax.meets_readItem (known : String → Bool) (v : Value) :
    Meets (readItem known v) (fun _ => True) fun f =>
      f.escapes = true → v.HasExcessiveSelector known := by
  have hbanned : ∀ s m, (Value.str s).IsPart v → Meets (banned known s m) (fun _ => True) fun f =>
      f.escapes = true → v.HasExcessiveSelector known := by
    intro s m hs
    unfold banned
    split
    · rename_i e he
      exact fun hescapes => ⟨s, e, hs, he, hescapes⟩
    · trivial
  unfold readItem
  split
  · exact hbanned _ _ .self
  · split
    · rename_i hfield
      have hpart := Value.isPart_of_find? hfield
      split
      · exact hbanned _ _ (hpart _)
      · exact hbanned _ _ (hpart _)
      · exact fun h => by cases h
    · exact fun h => by cases h
  · exact fun h => by cases h

theorem RestrictedSyntax.meets_readOption (known : String → Bool) (v : Value) :
    Meets (readOption known v) (fun _ => True) fun f =>
      f.escapes = true → v.HasExcessiveSelector known := by
  unfold readOption
  split
  · rename_i label entries
    split
    · rename_i inner items hfield
      refine Meets.mapM_fault fun u hu => ?_
      have hpart : u.IsPart (.map label entries) :=
        Value.IsPart.trans (.item hu .self) (Value.isPart_of_find? hfield label)
      exact (meets_readItem known u).mono (fun _ h => h) fun f hf he => (hf he).of_part hpart
    · exact fun h => by cases h
    · refine Meets.map ((meets_readItem known _).mono (fun _ h => h) fun f hf he => ?_)
      -- A mapping without a list of selectors is an item, whatever its label.
      obtain ⟨s, e, hs, hparse⟩ := hf he
      refine ⟨s, e, ?_, hparse⟩
      cases hs with
      | key hmem hpart => exact .key hmem hpart
      | value hmem hpart => exact .value hmem hpart
  · exact Meets.map (meets_readItem known v)

theorem RestrictedImports.meets_readOptions (raw : List Value) :
    Meets (readOptions raw) (fun _ => True) (·.escapes = false) := by
  have hall : Meets ((raw.mapM readOption).map List.flatten) (fun _ => True) (·.escapes = false) :=
    Meets.map (Meets.mapM_fault fun v _ => meets_readOption v)
  unfold readOptions
  split
  · rename_i f hf
    exact hall.fault hf
  · rfl
  · trivial

theorem RestrictedSyntax.meets_readOptions (known : String → Bool) {raw : List Value}
    {data : Value} (hraw : ∀ v ∈ raw, v.IsPart data) :
    Meets (readOptions known raw) (fun _ => True) fun f =>
      f.escapes = true → data.HasExcessiveSelector known := by
  have hall : Meets ((raw.mapM (readOption known)).map List.flatten) (fun _ => True) fun f =>
      f.escapes = true → data.HasExcessiveSelector known := by
    refine Meets.map (Meets.mapM_fault fun v hv => ?_)
    exact (meets_readOption known v).mono (fun _ h => h) fun f hf he => (hf he).of_part (hraw v hv)
  unfold readOptions
  split
  · rename_i f hf
    exact hall.fault hf
  · exact fun h => by cases h
  · trivial

namespace Config

/-- Of the built-in rules, only the one that bans syntax refuses options out of turn. -/
theorem hasExcessiveSelector_of_builtin {data : Value} {f : OptionFault}
    (h : OptionsRefused .builtin data f) (hf : f.escapes = true) :
    data.HasExcessiveSelector Kind.isKnown := by
  obtain ⟨rule, hrule, raw, hraw, hread⟩ := h
  simp only [Registry.builtin, List.mem_cons, List.not_mem_nil, or_false] at hrule
  have hnode : ∀ r : NodeRule, r.rule.readOptions raw = .error f →
      data.HasExcessiveSelector Kind.isKnown := by
    intro r hr
    simp only [NodeRule.rule, NodeRule.readNoOptions] at hr
    split at hr
    · cases hr
    · cases hr
      cases hf
  rcases hrule with rfl | rfl | rfl | rfl | rfl | rfl | rfl | rfl
  · have hreported := (RestrictedImports.meets_readOptions raw).fault hread
    rw [hreported] at hf
    cases hf
  · exact (RestrictedSyntax.meets_readOptions Kind.isKnown hraw).fault hread hf
  all_goals exact hnode _ hread

end Config

end BoundaryLint
