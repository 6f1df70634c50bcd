import BoundaryLint.Proofs.IrregularDocuments

/-!
# Ordinary documents

In an ordinary document lists and mappings have the kinds of lists and mappings, every text has a
value, and no collection holds itself. Its nodes are told apart by their numbers, so the values that
are built once for all aliases are those of the nodes that the aliases stand for. The value of the
document then has the form of its nodes, provided that the keys of each mapping are told apart.
-/
namespace BoundaryLint

open Number (Binary64)

theorem Number.Binary64.same_self {x : Binary64} (hx : x ≠ .nan) : x.same x = true := by
  cases x with
  | finite neg m e =>
      cases neg with
      | false => exact beq_iff_eq.mpr (Int.add_right_neg _)
      | true => exact beq_iff_eq.mpr (Int.add_left_neg _)
  | infinite neg => simp [Binary64.same]
  | nan => exact absurd rfl hx

theorem Timestamp.same_self (t : Timestamp) : t.same t = true := by
  unfold Timestamp.same
  repeat' split
  all_goals simp_all

namespace Yaml

theorem isCollection_of_scalarValue {tag : Tag} {s : String} {v : Value}
    (h : scalarValue tag s = .ok v) : tag.isCollection = false := by
  cases tag with
  | list | entries | set | map => cases h
  | _ => rfl

/-- The only value of a text that is not equal to itself is the missing number. -/
theorem sameKey_self {tag : Tag} {s : String} {v : Value} (h : scalarValue tag s = .ok v)
    (hv : v ≠ .float .nan) : v.sameKey v = true := by
  cases tag with
  | float =>
      simp only [scalarValue] at h
      split at h
      · cases h
        exact Binary64.same_self fun hx => hv (congrArg Value.float hx)
      · cases h
  | timestamp =>
      simp only [scalarValue] at h
      repeat' split at h
      all_goals cases h
      exact Timestamp.same_self _
  | _ =>
      simp only [scalarValue] at h
      repeat' split at h
      all_goals cases h
      all_goals simp [Value.sameKey, Value.number?, Value.sameNumber]

theorem floatOf_of_isMissingNumber {s : String} (h : isMissingNumber s = true) :
    floatOf s = .ok .nan := by
  unfold isMissingNumber at h
  unfold floatOf
  have hds := eq_of_beq h
  have hne : (floatChars s).isEmpty = false := by
    cases hcs : floatChars s with
    | nil =>
        rw [hcs] at hds
        cases hds
    | cons c cs => rfl
  simp [hds, hne, Except.map, Binary64.neg]

/-- A node and all that is in it satisfy `P`, and no collection holds itself. -/
inductive Node.Every (P : Node → Prop) : Node → Prop
  | text {m : Mark} {text : String} : P (.scalar m text) → Every P (.scalar m text)
  | list {m : Mark} {items : List Node} :
      P (.list m items) → (∀ n ∈ items, Every P n) → Every P (.list m items)
  | map {m : Mark} {entries : List (Node × Node)} :
      P (.map m entries) → (∀ e ∈ entries, Every P e.1) → (∀ e ∈ entries, Every P e.2) →
      Every P (.map m entries)

/-- A list or a mapping has the kind of a list or a mapping, and a text has a value. -/
def Node.IsPlain : Node → Prop
  | .scalar m text => ∃ v, scalarValue m.tag text = .ok v
  | .list m _ => m.tag = .list
  | .map m _ => m.tag = .map
  | .cycle _ _ => False

theorem Node.Every.self {P : Node → Prop} {n : Node} (h : n.Every P) : P n := by
  cases h with
  | text hn => exact hn
  | list hn _ => exact hn
  | map hn _ _ => exact hn

theorem Node.Every.pair {P : Node → Prop} {m : Mark} {a b k v : Node}
    (h : P (.map m [(a, b), (k, v)])) (ha : a.Every P) (hb : b.Every P) (hk : k.Every P)
    (hv : v.Every P) : (Node.map m [(a, b), (k, v)]).Every P := by
  refine .map h ?_ ?_
  · exact List.forall_mem_cons.mpr ⟨ha, List.forall_mem_singleton.mpr hk⟩
  · exact List.forall_mem_cons.mpr ⟨hb, List.forall_mem_singleton.mpr hv⟩

theorem Node.sizeOf_lt_of_mem_entries {m : Mark} {entries : List (Node × Node)} {e : Node × Node}
    (he : e ∈ entries) :
    sizeOf e.1 < sizeOf (Node.map m entries) ∧ sizeOf e.2 < sizeOf (Node.map m entries) := by
  have hlt := List.sizeOf_lt_of_mem he
  cases e
  simp only [Node.map.sizeOf_spec, Prod.mk.sizeOf_spec] at hlt ⊢
  omega

/-- Two keys are equal, or they are one and the same missing number, which is not equal to
itself. -/
def Key.Clashes (a b : Key) : Prop :=
  a.value.sameKey b.value = true ∨ a.object = b.object ∧ a.value = .float .nan

/-- A value has the form of a node: a list has one item for each item of the node, and a mapping one
entry for each key of the node, in their order, and no key is equal to one before it. -/
inductive Node.HasValue : Node → Value → Prop
  | text {m : Mark} {text : String} {v : Value} :
      scalarValue m.tag text = .ok v → HasValue (.scalar m text) v
  | list {m : Mark} {items : List Node} {label : Option Value.Identity} {vs : List Value} :
      List.Forall₂ HasValue items vs → HasValue (.list m items) (.list label vs)
  | map {m : Mark} {entries : List (Node × Node)} {label : Option Value.Identity}
      {es : List (Value × Value)} :
      List.Forall₂ HasValue (entries.map (·.1)) (es.map (·.1)) →
      List.Forall₂ HasValue (entries.map (·.2)) (es.map (·.2)) →
      (es.map (·.1)).Pairwise (fun a b => b.sameKey a = false) →
      HasValue (.map m entries) (.map label es)

theorem Node.values_eq_map (k : Known) (items : List Node) :
    Node.values k items = items.map (Node.value k) := by
  induction items with
  | nil => rw [Node.values, List.map_nil]
  | cons n items ih => rw [Node.values, List.map_cons, ih]

theorem Node.entryValues_eq_map (k : Known) (entries : List (Node × Node)) :
    Node.entryValues k entries = entries.map fun e => (e.1.value k, e.2.value k) := by
  induction entries with
  | nil => rw [Node.entryValues, List.map_nil]
  | cons e entries ih => rw [Node.entryValues, List.map_cons, ih]

/-- The register of a list of nodes, which are numbered from one on. -/
def Register.ofNodes (ns : List Node) : Register where
  count := ns.length
  node? i := if i = 0 then none else ns[i - 1]?

namespace Document

/-- A document that consists of plain nodes. -/
def IsOrdinary (d : Document) : Prop :=
  d.root.Every Node.IsPlain

variable {d : Document} {r : Register} {a b n : Node}

theorem Holds.every {P : Node → Prop} (hroot : d.root.Every P) (hn : d.Holds n) : n.Every P := by
  induction hn with
  | root => exact hroot
  | target _ ih =>
      cases ih with
      | text hn => exact .text hn
      | list hn hitems => exact .list hn hitems
      | map hn hkeys hvalues => exact .map hn hkeys hvalues
  | item _ hn ih =>
      cases ih with
      | list _ hitems => exact hitems _ hn
  | key _ he ih =>
      cases ih with
      | map _ hkeys _ => exact hkeys _ he
  | value _ he ih =>
      cases ih with
      | map _ _ hvalues => exact hvalues _ he

theorem IsOrdinary.isPlain (ho : d.IsOrdinary) (hn : d.Holds n) : n.IsPlain :=
  (hn.every ho).self

theorem IsOrdinary.target (ho : d.IsOrdinary) (hn : d.Holds n) : d.target n = n := by
  cases n with
  | cycle id line => exact (ho.isPlain hn).elim
  | _ => rfl

theorem leafValue_scalar (d : Document) (m : Mark) (text : String) :
    d.leafValue (.scalar m text) = scalarValue m.tag text := by
  unfold leafValue
  rw [textOf, textWithin]
  cases htag : m.tag with
  | _ => simp [target, tagOf, Node.mark, htag, bind, Except.bind]

/-! ### Nodes and their numbers -/

theorem Holds.recorded (hd : d.Recorded r) (h : d.Holds n) : n.Recorded r := by
  induction h with
  | root => exact hd.root
  | @target n _ ih =>
      rcases target_eq_or_mem d n with hself | ⟨a, ha, htarget⟩
      · rw [hself]
        exact ih
      · rw [htarget]
        exact hd.anchored a ha
  | item _ hn ih =>
      cases ih with
      | list _ hitems => exact hitems _ hn
  | key _ he ih =>
      cases ih with
      | map _ hkeys _ => exact hkeys _ he
  | value _ he ih =>
      cases ih with
      | map _ _ hvalues => exact hvalues _ he

theorem Holds.id_pos_of_list (hd : d.Recorded r) {m : Mark} {items : List Node}
    (h : d.Holds (.list m items)) : 0 < m.id := by
  cases h.recorded hd with
  | list hhas _ => exact hhas.pos

theorem Holds.id_pos_of_map (hd : d.Recorded r) {m : Mark} {entries : List (Node × Node)}
    (h : d.Holds (.map m entries)) : 0 < m.id := by
  cases h.recorded hd with
  | map hhas _ _ => exact hhas.pos

theorem IsOrdinary.ne_cycle (ho : d.IsOrdinary) (hn : d.Holds n) (id line : Nat) :
    n ≠ .cycle id line := by
  rintro rfl
  exact ho.isPlain hn

theorem IsOrdinary.eq_of_id (ho : d.IsOrdinary) (hd : d.Recorded r) (ha : d.Holds a)
    (hb : d.Holds b) (hpos : 0 < a.mark.id) (hid : a.mark.id = b.mark.id) : a = b :=
  (ha.recorded hd).eq_of_id (hb.recorded hd) hpos hid (ho.ne_cycle ha) (ho.ne_cycle hb)

/-! ### Keys -/

theorem exists_scalar_of_keyOf (ho : d.IsOrdinary) (hn : d.Holds n) {key : Key}
    (h : d.keyOf n = .ok key) :
    ∃ m text, n = .scalar m text ∧ scalarValue m.tag text = .ok key.value ∧
      key.object = d.objectOf n := by
  cases n with
  | scalar m text =>
      obtain ⟨v, hv⟩ := ho.isPlain hn
      have hleaf : (d.tagOf (.scalar m text)).isCollection = false := isCollection_of_scalarValue hv
      rw [keyOf_of_leaf hleaf, leafValue_scalar, hv] at h
      cases h
      exact ⟨m, text, rfl, hv, rfl⟩
  | list m items =>
      have htag : d.tagOf (.list m items) = .list := ho.isPlain hn
      rw [keyOf, htag] at h
      cases h
  | map m entries =>
      have htag : d.tagOf (.map m entries) = .map := ho.isPlain hn
      rw [keyOf, htag] at h
      cases h
  | cycle id line => exact (ho.isPlain hn).elim

theorem objectOf_scalar (d : Document) (m : Mark) (text : String) :
    d.objectOf (.scalar m text) =
      if m.tag == .float && isMissingNumber text then 0 else m.id + 1 := by
  rfl

theorem tag_of_id_eq_zero (hd : d.Recorded r) {m : Mark} {text : String}
    (hn : d.Holds (.scalar m text)) (hid : m.id = 0) : m.tag = .null := by
  cases hn.recorded hd with
  | missing line => rfl
  | scalar hhas => exact absurd hid (Nat.ne_of_gt hhas.pos)

/-- The keys that a check takes for one are those that clash. -/
theorem same_iff_clashes (ho : d.IsOrdinary) (hd : d.Recorded r) (ha : d.Holds a) (hb : d.Holds b)
    {k l : Key} (hk : d.keyOf a = .ok k) (hl : d.keyOf b = .ok l) :
    k.same l = true ↔ k.Clashes l := by
  unfold Key.same Key.Clashes
  rw [Bool.or_eq_true, beq_iff_eq]
  refine or_congr_right' fun hne => ⟨fun hobject => ⟨hobject, ?_⟩, fun h => h.1⟩
  obtain ⟨m, text, rfl, hkv, hko⟩ := exists_scalar_of_keyOf ho ha hk
  obtain ⟨m', text', rfl, hlv, hlo⟩ := exists_scalar_of_keyOf ho hb hl
  rw [objectOf_scalar] at hko hlo
  by_cases hmissing : (m.tag == .float && isMissingNumber text) = true
  · obtain ⟨htag, hname⟩ := Bool.and_eq_true_iff.mp hmissing
    rw [eq_of_beq htag, scalarValue, floatOf_of_isMissingNumber hname] at hkv
    exact (Except.ok.inj hkv).symm
  · -- any other object belongs to one node, so the two keys have one value
    have hid : m.id = m'.id := by
      rw [if_neg hmissing] at hko
      split at hlo
      · omega
      · omega
    have hvalue : k.value = l.value := by
      rcases Nat.eq_zero_or_pos m.id with hzero | hpos
      · rw [tag_of_id_eq_zero hd ha hzero] at hkv
        rw [tag_of_id_eq_zero hd hb (hid ▸ hzero)] at hlv
        exact (Except.ok.inj hkv).symm.trans (Except.ok.inj hlv)
      · have hnode := ho.eq_of_id hd ha hb hpos hid
        cases hnode
        exact Except.ok.inj (hkv.symm.trans hlv)
    by_contra hnan
    exact hne (hvalue ▸ sameKey_self hkv hnan)

/-- The keys of a mapping can be keys, and none of them clashes with one before it. -/
def TellsApart (d : Document) : Node → Prop
  | .map _ entries =>
    ∃ keys, List.Forall₂ (fun e key => d.keyOf e.1 = .ok key) entries keys ∧
      keys.Pairwise fun a b => ¬ b.Clashes a
  | _ => True

/-- Every mapping of a document tells its keys apart. -/
def KeysApart (d : Document) : Prop :=
  ∀ n, d.Holds n → d.TellsApart n

/-! ### Values -/

/-- The values of a table are those of the nodes with their numbers. -/
def Fits (d : Document) (t : ValueTable) : Prop :=
  ∀ e ∈ t, ∀ n, d.Holds n → 0 < n.mark.id → n.mark.id = e.1 → n.HasValue e.2

theorem Fits.hasValue {k : Known} (ht : d.Fits k.now) (hd : d.Recorded r) (hn : d.Holds n)
    (hcycle : ∀ id line, n ≠ .cycle id line) {v : Value} (hv : k.get? n.mark = some v) :
    n.HasValue v := by
  unfold Known.get? ValueTable.get? at hv
  split at hv
  · rename_i hanchored
    obtain ⟨e, he, rfl⟩ := Option.map_eq_some_iff.mp hv
    have hid : e.1 = n.mark.id := by simpa using List.find?_some he
    have hpos : 0 < n.mark.id := by
      cases hn.recorded hd with
      | missing line => cases hanchored
      | scalar h => exact h.pos
      | list h _ => exact h.pos
      | map h _ _ => exact h.pos
      | cycle _ => exact absurd rfl (hcycle _ _)
    exact ht e (List.mem_of_find?_eq_some he) n hn hpos hid.symm
  · cases hv

theorem value_of_keyOf (k : Known) (ho : d.IsOrdinary) (hn : d.Holds n) {key : Key}
    (h : d.keyOf n = .ok key) : n.value k = key.value := by
  obtain ⟨m, text, rfl, hv, -⟩ := exists_scalar_of_keyOf ho hn h
  rw [Node.value, Known.leaf, leafValue_scalar, hv]
  rfl

theorem map_value_of_keys (k : Known) (ho : d.IsOrdinary)
    {entries : List (Node × Node)} {keys : List Key} (hheld : ∀ e ∈ entries, d.Holds e.1)
    (h : List.Forall₂ (fun e key => d.keyOf e.1 = .ok key) entries keys) :
    entries.map (fun e => e.1.value k) = keys.map (·.value) := by
  induction h with
  | nil => rfl
  | cons hkey _ ih =>
      obtain ⟨he, hrest⟩ := List.forall_mem_cons.mp hheld
      rw [List.map_cons, List.map_cons, value_of_keyOf k ho he hkey, ih hrest]

theorem hasValue_value {k : Known} (ht : d.Fits k.now) (ho : d.IsOrdinary) (hd : d.Recorded r)
    (hkeys : d.KeysApart) (hn : d.Holds n) : n.HasValue (n.value k) := by
  induction hsize : sizeOf n using Nat.strongRecOn generalizing n with
  | ind size ih =>
      subst hsize
      have hknown : ∀ v, k.get? n.mark = some v → n.HasValue v :=
        fun v hv => ht.hasValue hd hn (ho.ne_cycle hn) hv
      cases n with
      | scalar m text =>
          obtain ⟨v, hv⟩ := ho.isPlain hn
          rw [Node.value, Known.leaf, leafValue_scalar, hv]
          exact .text hv
      | list m items =>
          have hitem : ∀ i ∈ items, i.HasValue (i.value k) := by
            intro i hi
            refine ih _ ?_ (hn.item hi) rfl
            have hlt := List.sizeOf_lt_of_mem hi
            simp only [Node.list.sizeOf_spec]
            omega
          have htag : m.tag = .list := ho.isPlain hn
          rw [Node.value]
          split
          · exact hknown _ ‹_›
          · rw [htag, Node.values_eq_map]
            exact .list (List.forall₂_map_right_iff.mpr (List.forall₂_same.mpr hitem))
      | map m entries =>
          have hkey : ∀ e ∈ entries, e.1.HasValue (e.1.value k) :=
            fun e he => ih _ (Node.sizeOf_lt_of_mem_entries he).1 (hn.key he) rfl
          have hvalue : ∀ e ∈ entries, e.2.HasValue (e.2.value k) :=
            fun e he => ih _ (Node.sizeOf_lt_of_mem_entries he).2 (hn.value he) rfl
          have htag : m.tag = .map := ho.isPlain hn
          obtain ⟨keys, hpaired, hapart⟩ := hkeys _ hn
          rw [Node.value]
          split
          · exact hknown _ ‹_›
          · rw [htag, Node.entryValues_eq_map]
            refine .map ?_ ?_ ?_
            · rw [List.map_map]
              exact List.forall₂_map_left_iff.mpr
                (List.forall₂_map_right_iff.mpr (List.forall₂_same.mpr hkey))
            · rw [List.map_map]
              exact List.forall₂_map_left_iff.mpr
                (List.forall₂_map_right_iff.mpr (List.forall₂_same.mpr hvalue))
            · rw [List.map_map]
              have hmap := map_value_of_keys k ho (fun e he => hn.key he) hpaired
              change (entries.map fun e => e.1.value k).Pairwise _
              rw [hmap, List.pairwise_map]
              refine hapart.imp fun hclash => ?_
              exact Bool.eq_false_iff.mpr fun hsame => hclash (.inl hsame)
      | cycle id line => exact (ho.isPlain hn).elim

theorem fits_tableAfter (ho : d.IsOrdinary) (hd : d.Recorded r) (hkeys : d.KeysApart)
    (before : ValueTable) : d.Fits (d.tableAfter before) := by
  unfold tableAfter
  refine List.foldlRecOn d.anchored _ (List.forall_mem_nil _) fun now hnow a ha => ?_
  refine List.forall_mem_cons.mpr ⟨fun n hn hpos hid => ?_, hnow⟩
  have hnumber : n.mark.id = a.2.mark.id := hid.trans (hd.number a ha)
  have hnode := (hn.recorded hd).eq_of_id (hd.anchored a ha) hpos hnumber (ho.ne_cycle hn)
    (hd.collection a ha)
  subst hnode
  exact hasValue_value hnow ho hd hkeys hn

theorem fits_tableOf (ho : d.IsOrdinary) (hd : d.Recorded r) (hkeys : d.KeysApart) (rounds : Nat) :
    d.Fits (d.tableOf rounds) := by
  cases rounds with
  | zero => exact List.forall_mem_nil _
  | succ rounds => exact fits_tableAfter ho hd hkeys _

theorem root_hasValue (ho : d.IsOrdinary) (hd : d.Recorded r) (hkeys : d.KeysApart) :
    d.root.HasValue d.value :=
  hasValue_value (fits_tableOf ho hd hkeys d.rounds) ho hd hkeys .root

/-! ### Documents from lists of nodes -/

theorem composed_of_every {d : Document} {r : Register} (hcount : r.count = d.size)
    (hroot : d.root.Every r.Has)
    (hanchored : ∀ a ∈ d.anchored, a.2.Every r.Has ∧ a.1 = a.2.mark.id) : d.Composed := by
  have hrecorded : ∀ {n : Node}, n.Every r.Has → n.Recorded r := by
    intro n hn
    induction hn with
    | text h => exact .scalar h
    | list h _ ih => exact .list h ih
    | map h _ _ ihkey ihvalue => exact .map h ihkey ihvalue
  refine ⟨r, hcount, hrecorded hroot, ?_, ?_, ?_⟩
  · exact fun a ha => hrecorded (hanchored a ha).1
  · exact fun a ha => (hanchored a ha).2
  · intro a ha id line hcycle
    have hnone := (hanchored a ha).1
    rw [hcycle] at hnone
    cases hnone

end Document

end Yaml

end BoundaryLint
