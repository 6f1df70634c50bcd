import BoundaryLint.Proofs.Checked
import BoundaryLint.Yaml.Value
import Mathlib.Data.List.Perm.Subperm

/-!
# The numbers of nodes

Nodes are numbered in the order in which they start, and a node that is missing has the number zero.
An alias repeats the node that it names together with its number. So every other number belongs to
one node. No number is greater than the number of nodes, and a search that enters no collection
twice comes to an end within that many steps.
-/
namespace BoundaryLint.Yaml

/-- No number in a node is greater than `k`. -/
inductive Node.Numbered (k : Nat) : Node → Prop
  | scalar {m : Mark} {text : String} : m.id ≤ k → Numbered k (.scalar m text)
  | list {m : Mark} {items : List Node} :
      m.id ≤ k → (∀ n ∈ items, Numbered k n) → Numbered k (.list m items)
  | map {m : Mark} {entries : List (Node × Node)} :
      m.id ≤ k → (∀ e ∈ entries, Numbered k e.1) → (∀ e ∈ entries, Numbered k e.2) →
      Numbered k (.map m entries)
  | cycle {id line : Nat} : id ≤ k → Numbered k (.cycle id line)

theorem Node.Numbered.id_le {k : Nat} {n : Node} (h : n.Numbered k) : n.mark.id ≤ k := by
  cases h with
  | scalar hid => exact hid
  | list hid _ => exact hid
  | map hid _ _ => exact hid
  | cycle hid => exact hid

/-! ### Registers -/

/-- The numbers that were given so far, and the nodes that have them. A collection that is still
open has a number, and no node yet. -/
structure Register where
  count : Nat
  node? : Nat → Option Node

namespace Register

/-- The number of a node was given to this node. -/
structure Has (r : Register) (n : Node) : Prop where
  pos : 0 < n.mark.id
  le : n.mark.id ≤ r.count
  node : r.node? n.mark.id = some n

/-- More numbers were given; those that were given before are as they were. -/
structure Extends (r r' : Register) : Prop where
  count : r.count ≤ r'.count
  node : ∀ i ≤ r.count, r'.node? i = r.node? i

/-- One more number is given, to a collection that is opened. -/
def opened (r : Register) : Register where
  count := r.count + 1
  node? i := if i = r.count + 1 then none else r.node? i

def set (r : Register) (id : Nat) (n : Node) : Register :=
  { r with node? := fun i => if i = id then some n else r.node? i }

variable {r r' r'' : Register}

theorem Extends.refl (r : Register) : r.Extends r :=
  ⟨Nat.le_refl _, fun _ _ => rfl⟩

theorem Extends.trans (h : r.Extends r') (h' : r'.Extends r'') : r.Extends r'' := by
  refine ⟨Nat.le_trans h.count h'.count, fun i hi => ?_⟩
  rw [h'.node i (Nat.le_trans hi h.count), h.node i hi]

theorem extends_opened (r : Register) : r.Extends r.opened := by
  refine ⟨Nat.le_succ _, fun i hi => ?_⟩
  exact if_neg (Nat.ne_of_lt (Nat.lt_succ_of_le hi))

theorem Has.mono (h : r.Extends r') {n : Node} (hn : r.Has n) : r'.Has n :=
  ⟨hn.pos, Nat.le_trans hn.le h.count, (h.node _ hn.le).trans hn.node⟩

theorem Has.set {n m : Node} {id : Nat} (hid : r.node? id = none) (hn : r.Has n) :
    (r.set id m).Has n := by
  refine ⟨hn.pos, hn.le, ?_⟩
  have hne : n.mark.id ≠ id := by
    intro heq
    rw [← heq, hn.node] at hid
    cases hid
  exact (if_neg hne).trans hn.node

/-- The collection that was opened has no node as long as it is open. -/
theorem node_opened (h : r.opened.Extends r') : r'.node? (r.count + 1) = none :=
  (h.node _ (Nat.le_refl _)).trans (if_pos rfl)

theorem extends_set (h : r.opened.Extends r') (n : Node) : r.Extends (r'.set (r.count + 1) n) := by
  have hext := (extends_opened r).trans h
  refine ⟨hext.count, fun i hi => ?_⟩
  exact (if_neg (Nat.ne_of_lt (Nat.lt_succ_of_le hi))).trans (hext.node i hi)

theorem has_set (h : r.opened.Extends r') {n : Node} (hn : n.mark.id = r.count + 1) :
    (r'.set (r.count + 1) n).Has n := by
  refine ⟨?_, ?_, ?_⟩
  · rw [hn]
    exact Nat.succ_pos _
  · rw [hn]
    exact h.count
  · rw [hn]
    exact if_pos rfl

end Register

/-- All numbers in a node were given to the nodes that have them. -/
inductive Node.Recorded (r : Register) : Node → Prop
  | missing (line : Nat) : Recorded r (.empty line)
  | scalar {m : Mark} {text : String} : r.Has (.scalar m text) → Recorded r (.scalar m text)
  | list {m : Mark} {items : List Node} :
      r.Has (.list m items) → (∀ n ∈ items, Recorded r n) → Recorded r (.list m items)
  | map {m : Mark} {entries : List (Node × Node)} :
      r.Has (.map m entries) → (∀ e ∈ entries, Recorded r e.1) → (∀ e ∈ entries, Recorded r e.2) →
      Recorded r (.map m entries)
  | cycle {id line : Nat} : id ≤ r.count → Recorded r (.cycle id line)

namespace Node.Recorded
variable {r r' : Register} {n : Node}

theorem mono (h : r.Extends r') (hn : n.Recorded r) : n.Recorded r' := by
  induction hn with
  | missing line => exact .missing line
  | scalar hm => exact .scalar (hm.mono h)
  | list hm _ ih => exact .list (hm.mono h) ih
  | map hm _ _ ihkey ihvalue => exact .map (hm.mono h) ihkey ihvalue
  | cycle hid => exact .cycle (Nat.le_trans hid h.count)

theorem set {id : Nat} {m : Node} (hid : r.node? id = none) (hn : n.Recorded r) :
    n.Recorded (r.set id m) := by
  induction hn with
  | missing line => exact .missing line
  | scalar hm => exact .scalar (hm.set hid)
  | list hm _ ih => exact .list (hm.set hid) ih
  | map hm _ _ ihkey ihvalue => exact .map (hm.set hid) ihkey ihvalue
  | cycle hid => exact .cycle hid

theorem has (hn : n.Recorded r) (hpos : 0 < n.mark.id) (hcycle : ∀ id line, n ≠ .cycle id line) :
    r.Has n := by
  cases hn with
  | missing line => exact absurd hpos (Nat.lt_irrefl 0)
  | scalar h => exact h
  | list h _ => exact h
  | map h _ _ => exact h
  | cycle _ => exact absurd rfl (hcycle _ _)

/-- Two nodes of one number are one node, unless they are missing texts or aliases of a collection
around them. -/
theorem eq_of_id {a b : Node} (ha : a.Recorded r) (hb : b.Recorded r) (hpos : 0 < a.mark.id)
    (hid : a.mark.id = b.mark.id) (hcycle : ∀ id line, a ≠ .cycle id line)
    (hcycle' : ∀ id line, b ≠ .cycle id line) : a = b := by
  have hna := (ha.has hpos hcycle).node
  have hnb := (hb.has (hid ▸ hpos) hcycle').node
  rw [hid, hnb] at hna
  exact (Option.some.inj hna).symm

theorem numbered (hn : n.Recorded r) : n.Numbered r.count := by
  induction hn with
  | missing line => exact .scalar (Nat.zero_le _)
  | scalar hm => exact .scalar hm.le
  | list hm _ ih => exact .list hm.le ih
  | map hm _ _ ihkey ihvalue => exact .map hm.le ihkey ihvalue
  | cycle hid => exact .cycle hid

end Node.Recorded

/-- All numbers in what an anchor names were given. -/
def Anchored.Recorded (r : Register) : Anchored → Prop
  | .node n => n.Recorded r
  | .opened id _ => id ≤ r.count

theorem Anchored.Recorded.mono {r r' : Register} (h : r.Extends r') {a : Anchored}
    (ha : a.Recorded r) : a.Recorded r' := by
  cases a with
  | node n => exact Node.Recorded.mono h ha
  | opened id line => exact Nat.le_trans ha h.count

theorem Anchored.Recorded.set {r : Register} {id : Nat} {m : Node} (hid : r.node? id = none)
    {a : Anchored} (ha : a.Recorded r) : a.Recorded (r.set id m) := by
  cases a with
  | node n => exact Node.Recorded.set hid ha
  | opened id line => exact ha

/-! ### Streams -/

/-- A register tells how many numbers a stream has given, and what its anchors name. -/
structure Register.Keeps (r : Register) (s : TokenStream) : Prop where
  count : s.count = r.count
  anchors : ∀ a ∈ s.anchors, a.2.Recorded r

namespace Register.Keeps
variable {r r' : Register} {s : TokenStream}

theorem start (ts : List Token) : Keeps ⟨0, fun _ => none⟩ { tokens := ts } :=
  ⟨rfl, List.forall_mem_nil _⟩

theorem of_anchored? (h : r.Keeps s) {name : String} {a : Anchored}
    (ha : s.anchored? name = some a) : a.Recorded r := by
  unfold TokenStream.anchored? at ha
  obtain ⟨e, he, rfl⟩ := Option.map_eq_some_iff.mp ha
  exact h.anchors e (List.mem_of_find?_eq_some he)

theorem bindAnchor (h : r.Keeps s) (name : Option String) {a : Anchored} (ha : a.Recorded r) :
    r.Keeps (s.bindAnchor name a) := by
  cases name with
  | none => exact h
  | some x => exact ⟨h.count, List.forall_mem_cons.mpr ⟨ha, h.anchors⟩⟩

theorem fresh (h : r.Keeps s) : r.opened.Keeps s.fresh.2 :=
  ⟨congrArg (· + 1) h.count, fun a ha => (h.anchors a ha).mono (extends_opened r)⟩

theorem set {id : Nat} (h : r.Keeps s) (hid : r.node? id = none) (m : Node) :
    (r.set id m).Keeps s :=
  ⟨h.count, fun a ha => (h.anchors a ha).set hid⟩

end Register.Keeps

/-- What is read from a stream that `r` keeps has numbers that were given, as `C` says of what is
read. -/
def Reads {α : Type} (r : Register) (C : Register → α → Prop)
    (x : Except Fault (α × TokenStream)) : Prop :=
  Meets x (fun a => ∃ r', r.Extends r' ∧ r'.Keeps a.2 ∧ C r' a.1) fun _ => True

section
variable {α β : Type} {C : Register → α → Prop} {D : Register → β → Prop} {r r' : Register}
  {s : TokenStream} {x : Except Fault (α × TokenStream)}

theorem Reads.error (e : Fault) : Reads r C (.error e) :=
  trivial

theorem Reads.ok {a : α} (hs : r.Keeps s) (ha : C r a) : Reads r C (.ok (a, s)) :=
  ⟨r, .refl r, hs, ha⟩

theorem Reads.of_extends (h : Reads r' C x) (hr : r.Extends r') : Reads r C x := by
  refine h.mono (fun a ha => ?_) fun _ _ => trivial
  obtain ⟨r'', hext, hrest⟩ := ha
  exact ⟨r'', hr.trans hext, hrest⟩

theorem Reads.bind {f : α × TokenStream → Except Fault (β × TokenStream)} (h : Reads r C x)
    (hf : ∀ a t r', r.Extends r' → r'.Keeps t → C r' a → Reads r' D (f (a, t))) :
    Reads r D (x >>= f) := by
  refine Meets.bind h fun a ha => ?_
  obtain ⟨r', hext, hkeeps, hC⟩ := ha
  exact (hf a.1 a.2 r' hext hkeeps hC).of_extends hext

/-- The node of what is read next gets the number that was given before. -/
theorem Reads.close {f : α × TokenStream → Except Fault (β × TokenStream)}
    (h : Reads r.opened C x) (make : α → Node)
    (hset : ∀ {r id n a}, r.node? id = none → C r a → C (r.set id n) a)
    (hid : ∀ a, (make a).mark.id = r.count + 1)
    (hf : ∀ a t r', r'.Has (make a) → r'.Keeps t → C r' a → Reads r' D (f (a, t))) :
    Reads r D (x >>= f) := by
  refine Meets.bind h fun a ha => ?_
  obtain ⟨r', hext, hkeeps, hC⟩ := ha
  have hnone := Register.node_opened hext
  have hhas := Register.has_set hext (hid a.1)
  exact (hf a.1 a.2 _ hhas (hkeeps.set hnone _) (hset hnone hC)).of_extends
    (Register.extends_set hext _)

end

def EntryRecorded (r : Register) (e : Node × Node) : Prop :=
  e.1.Recorded r ∧ e.2.Recorded r

theorem EntryRecorded.mono {r r' : Register} {e : Node × Node} (h : r.Extends r')
    (he : EntryRecorded r e) : EntryRecorded r' e :=
  ⟨he.1.mono h, he.2.mono h⟩

theorem EntryRecorded.set {r : Register} {id : Nat} {n : Node} {e : Node × Node}
    (hid : r.node? id = none) (he : EntryRecorded r e) : EntryRecorded (r.set id n) e :=
  ⟨he.1.set hid, he.2.set hid⟩

def Each {α : Type} (C : Register → α → Prop) (r : Register) (as : List α) : Prop :=
  ∀ a ∈ as, C r a

theorem Each.set_nodes {r : Register} {id : Nat} {n : Node} {items : List Node}
    (hid : r.node? id = none) (h : Each Node.Recorded r items) :
    Each Node.Recorded (r.set id n) items :=
  fun a ha => (h a ha).set hid

theorem Each.set_entries {r : Register} {id : Nat} {n : Node} {entries : List (Node × Node)}
    (hid : r.node? id = none) (h : Each EntryRecorded r entries) :
    Each EntryRecorded (r.set id n) entries :=
  fun e he => (h e he).set hid

section
variable {α : Type} {C : Register → α → Prop} {r : Register} {s : TokenStream}

theorem keeps_next (hs : r.Keeps s) : r.Keeps s.next :=
  ⟨hs.count, hs.anchors⟩

theorem reads_nil (hs : r.Keeps s) : Reads r (Each C) (.ok ([], s.next)) :=
  .ok (keeps_next hs) (List.forall_mem_nil _)

theorem reads_missing (hs : r.Keeps s) :
    Reads r Node.Recorded (.ok (Node.empty s.line, s.next)) :=
  .ok (keeps_next hs) (.missing _)

theorem reads_cons {x : Except Fault (α × TokenStream)}
    {read : TokenStream → Except Fault (List α × TokenStream)} (hx : Reads r C x)
    (hread : ∀ r' t, r'.Keeps t → Reads r' (Each C) (read t))
    (hmono : ∀ {r r' a}, r.Extends r' → C r a → C r' a) :
    Reads r (Each C) (do
      let (a, t) ← x
      let (as, t) ← read t
      .ok (a :: as, t)) := by
  refine hx.bind fun a t r₁ _ ht ha => ?_
  refine (hread r₁ t ht).bind fun as u r₂ hext hu has => ?_
  exact .ok hu (List.forall_mem_cons.mpr ⟨hmono hext ha, has⟩)

end

/-- What is read with a stock of fuel has numbers that were given. -/
structure Readers (handles : Handles) (fuel : Nat) : Prop where
  node : ∀ block flat r s, r.Keeps s → Reads r Node.Recorded (nodeAt handles fuel block flat s)
  blockItems : ∀ r s, r.Keeps s → Reads r (Each Node.Recorded) (blockItems handles fuel s)
  flatItems : ∀ r s, r.Keeps s → Reads r (Each Node.Recorded) (flatItems handles fuel s)
  blockPart : ∀ r s, r.Keeps s → Reads r Node.Recorded (blockPart handles fuel s)
  blockEntries : ∀ r s, r.Keeps s → Reads r (Each EntryRecorded) (blockEntries handles fuel s)
  flowPart : ∀ close r s, r.Keeps s → Reads r Node.Recorded (flowPart handles fuel close s)
  flowEntry : ∀ close r s, r.Keeps s → Reads r EntryRecorded (flowEntry handles fuel close s)
  flowItems : ∀ first r s, r.Keeps s →
    Reads r (Each Node.Recorded) (flowItems handles fuel first s)
  flowEntries : ∀ first r s, r.Keeps s →
    Reads r (Each EntryRecorded) (flowEntries handles fuel first s)

namespace Readers
variable {handles : Handles} {fuel : Nat} {r : Register} {s : TokenStream}

theorem zero (handles : Handles) : Readers handles 0 where
  node _ _ _ _ _ := trivial
  blockItems _ _ _ := trivial
  flatItems _ _ _ := trivial
  blockPart _ _ _ := trivial
  blockEntries _ _ _ := trivial
  flowPart _ _ _ _ := trivial
  flowEntry _ _ _ _ := trivial
  flowItems _ _ _ _ := trivial
  flowEntries _ _ _ _ := trivial

theorem blockItems_succ (ih : Readers handles fuel) (hs : r.Keeps s) :
    Reads r (Each Node.Recorded) (Yaml.blockItems handles (fuel + 1) s) := by
  rw [Yaml.blockItems]
  split
  · split
    · exact reads_cons (reads_missing hs) ih.blockItems Node.Recorded.mono
    · exact reads_cons (reads_missing hs) ih.blockItems Node.Recorded.mono
    · exact reads_cons (ih.node true false r _ (keeps_next hs)) ih.blockItems Node.Recorded.mono
  · exact reads_nil hs
  · exact .error _

theorem flatItems_succ (ih : Readers handles fuel) (hs : r.Keeps s) :
    Reads r (Each Node.Recorded) (Yaml.flatItems handles (fuel + 1) s) := by
  rw [Yaml.flatItems]
  split
  · split
    · exact reads_cons (reads_missing hs) ih.flatItems Node.Recorded.mono
    · exact reads_cons (reads_missing hs) ih.flatItems Node.Recorded.mono
    · exact reads_cons (reads_missing hs) ih.flatItems Node.Recorded.mono
    · exact reads_cons (reads_missing hs) ih.flatItems Node.Recorded.mono
    · exact reads_cons (ih.node true false r _ (keeps_next hs)) ih.flatItems Node.Recorded.mono
  · exact .ok hs (List.forall_mem_nil _)

theorem blockPart_succ (ih : Readers handles fuel) (hs : r.Keeps s) :
    Reads r Node.Recorded (Yaml.blockPart handles (fuel + 1) s) := by
  rw [Yaml.blockPart]
  split
  · exact reads_missing hs
  · exact reads_missing hs
  · exact reads_missing hs
  · exact ih.node true true r _ (keeps_next hs)

theorem blockEntries_succ (ih : Readers handles fuel) (hs : r.Keeps s) :
    Reads r (Each EntryRecorded) (Yaml.blockEntries handles (fuel + 1) s) := by
  rw [Yaml.blockEntries]
  split
  · refine (ih.blockPart r s hs).bind fun key t r₁ _ ht hkey => ?_
    dsimp only
    split
    · refine (ih.blockPart r₁ t ht).bind fun value u r₂ hext hu hvalue => ?_
      have hfirst : Reads r₂ EntryRecorded (.ok ((key, value), u)) :=
        .ok hu ⟨hkey.mono hext, hvalue⟩
      exact reads_cons hfirst ih.blockEntries EntryRecorded.mono
    · have hfirst : Reads r₁ EntryRecorded (.ok ((key, Node.empty t.line), t)) :=
        .ok ht ⟨hkey, .missing _⟩
      exact reads_cons hfirst ih.blockEntries EntryRecorded.mono
  · exact reads_nil hs
  · exact .error _

theorem flowPart_succ (ih : Readers handles fuel) (close : TokenKind → Bool) (hs : r.Keeps s) :
    Reads r Node.Recorded (Yaml.flowPart handles (fuel + 1) close s) := by
  rw [Yaml.flowPart]
  split
  · exact reads_missing hs
  · exact ih.node false false r _ (keeps_next hs)

theorem flowEntry_succ (ih : Readers handles fuel) (close : TokenKind) (hs : r.Keeps s) :
    Reads r EntryRecorded (Yaml.flowEntry handles (fuel + 1) close s) := by
  rw [Yaml.flowEntry]
  refine (ih.flowPart _ r s hs).bind fun key t r₁ _ ht hkey => ?_
  dsimp only
  split
  · refine (ih.flowPart _ r₁ t ht).bind fun value u r₂ hext hu hvalue => ?_
    exact .ok hu ⟨hkey.mono hext, hvalue⟩
  · exact .ok ht ⟨hkey, .missing _⟩

theorem reads_afterComma {α : Type} {C : Register → α → Prop} (hs : r.Keeps s) (first : Bool)
    {read : TokenStream → Except Fault (α × TokenStream)}
    (hread : ∀ t, r.Keeps t → Reads r C (read t)) :
    Reads r C (if first then read s else s.expect .comma >>= read) := by
  split
  · exact hread s hs
  · unfold TokenStream.expect
    split
    · exact hread s.next (keeps_next hs)
    · exact .error _

theorem flowItems_succ (ih : Readers handles fuel) (first : Bool) (hs : r.Keeps s) :
    Reads r (Each Node.Recorded) (Yaml.flowItems handles (fuel + 1) first s) := by
  rw [Yaml.flowItems]
  split
  · exact reads_nil hs
  · refine reads_afterComma hs first fun t ht => ?_
    beta_reduce
    split
    · exact reads_nil ht
    · have hentry := ih.flowEntry .closeList r.opened _ ht.fresh
      refine hentry.close
        (fun entry => .map { id := t.fresh.1, tag := .map, line := t.line } [entry])
        EntryRecorded.set (fun _ => congrArg (· + 1) ht.count) fun entry u r₁ hhas hu hentry => ?_
      have hnode := Node.Recorded.map hhas (by simpa using hentry.1) (by simpa using hentry.2)
      exact reads_cons (.ok hu hnode) (ih.flowItems false) Node.Recorded.mono
    · exact reads_cons (ih.node false false r t ht) (ih.flowItems false) Node.Recorded.mono

theorem flowEntries_succ (ih : Readers handles fuel) (first : Bool) (hs : r.Keeps s) :
    Reads r (Each EntryRecorded) (Yaml.flowEntries handles (fuel + 1) first s) := by
  rw [Yaml.flowEntries]
  split
  · exact reads_nil hs
  · refine reads_afterComma hs first fun t ht => ?_
    beta_reduce
    split
    · exact reads_nil ht
    · exact reads_cons (ih.flowEntry .closeMap r t ht) (ih.flowEntries false) EntryRecorded.mono
    · refine (ih.node false false r t ht).bind fun key u r₁ _ hu hkey => ?_
      have hfirst : Reads r₁ EntryRecorded (.ok ((key, Node.empty u.line), u)) :=
        .ok hu ⟨hkey, .missing _⟩
      exact reads_cons hfirst (ih.flowEntries false) EntryRecorded.mono

/-- Properties take no number and name nothing. -/
theorem reads_properties (handles : Handles) (hs : r.Keeps s) :
    Reads r (fun _ _ => True) (Yaml.properties handles s) := by
  have hsame : ∀ (p : Properties) (t : TokenStream), t.count = s.count → t.anchors = s.anchors →
      Reads r (fun _ _ => True) (.ok (p, t)) := by
    intro p t hcount hanchors
    refine .ok ⟨hcount.trans hs.count, ?_⟩ trivial
    rw [hanchors]
    exact hs.anchors
  unfold Yaml.properties
  dsimp only [bind, Except.bind]
  repeat' split
  all_goals first | exact .error _ | exact hsame _ _ rfl rfl

/-- A collection is numbered before what it holds, and its anchor names it from its start on. -/
theorem reads_collection {α : Type} {C : Register → α → Prop} {make : α → Node} {id line : Nat}
    {read : TokenStream → Except Fault (α × TokenStream)} (anchor : Option String)
    (hs : r.opened.Keeps s) (hid : id = r.count + 1) (hmark : ∀ a, (make a).mark.id = id)
    (hread : ∀ t, r.opened.Keeps t → Reads r.opened C (read t))
    (hset : ∀ {r id n a}, r.node? id = none → C r a → C (r.set id n) a)
    (hmake : ∀ r' a, r'.Has (make a) → C r' a → (make a).Recorded r') :
    Reads r Node.Recorded (do
      let (a, t) ← read (s.bindAnchor anchor (.opened id line))
      .ok (make a, t.bindAnchor anchor (.node (make a)))) := by
  have hopen : r.opened.Keeps (s.bindAnchor anchor (.opened id line)) :=
    hs.bindAnchor anchor (Nat.le_of_eq hid)
  refine (hread _ hopen).close make hset (fun a => (hmark a).trans hid)
    fun a t r' hhas ht hC => ?_
  have hnode := hmake r' a hhas hC
  exact .ok (ht.bindAnchor anchor hnode) hnode

theorem reads_text {m : Mark} (anchor : Option String) (hs : r.opened.Keeps s)
    (hid : m.id = r.count + 1) (text : String) :
    Reads r Node.Recorded
      (.ok (.scalar m text, s.bindAnchor anchor (.node (.scalar m text)))) := by
  have hnothing : Reads r.opened (fun _ _ => True) (.ok ((), s)) := .ok hs trivial
  refine hnothing.close (D := Node.Recorded)
    (f := fun a => .ok (.scalar m text, a.2.bindAnchor anchor (.node (.scalar m text))))
    (fun _ => .scalar m text) (fun _ h => h) (fun _ => hid) fun _ t r' hhas ht _ => ?_
  have hnode : (Node.scalar m text).Recorded r' := .scalar hhas
  exact .ok (ht.bindAnchor anchor hnode) hnode

theorem node_succ (ih : Readers handles fuel) (block flat : Bool) (hs : r.Keeps s) :
    Reads r Node.Recorded (nodeAt handles (fuel + 1) block flat s) := by
  rw [nodeAt]
  split
  · split
    · exact .error _
    · rename_i hn
      exact .ok (keeps_next hs) (hs.of_anchored? hn)
    · rename_i hn
      exact .ok ⟨hs.count, hs.anchors⟩ (.cycle (hs.of_anchored? hn))
  · refine (reads_properties handles hs).bind fun p t r₁ _ ht _ => ?_
    have hid : t.count + 1 = r₁.count + 1 := congrArg (· + 1) ht.count
    have hlist : ∀ tag r' items, r'.Has (.list (p.mark t.fresh.1 tag) items) →
        Each Node.Recorded r' items → (Node.list (p.mark t.fresh.1 tag) items).Recorded r' :=
      fun _ _ _ hhas hitems => .list hhas hitems
    have hmap : ∀ tag r' entries, r'.Has (.map (p.mark t.fresh.1 tag) entries) →
        Each EntryRecorded r' entries → (Node.map (p.mark t.fresh.1 tag) entries).Recorded r' :=
      fun _ _ _ hhas hentries =>
        .map hhas (fun e he => (hentries e he).1) fun e he => (hentries e he).2
    have htext : ∀ tag text u, r₁.opened.Keeps u → Reads r₁ Node.Recorded
        (.ok (.scalar (p.mark t.fresh.1 tag) text,
          u.bindAnchor p.anchor (.node (.scalar (p.mark t.fresh.1 tag) text)))) :=
      fun _ text u hu => reads_text p.anchor hu hid text
    dsimp only
    split
    · exact reads_collection _ ht.fresh hid (fun _ => rfl) (ih.flatItems _) Each.set_nodes (hlist _)
    · exact htext _ _ _ (keeps_next ht.fresh)
    · exact reads_collection _ ht.fresh hid (fun _ => rfl)
        (fun u hu => ih.flowItems true _ _ (keeps_next hu)) Each.set_nodes (hlist _)
    · exact reads_collection _ ht.fresh hid (fun _ => rfl)
        (fun u hu => ih.flowEntries true _ _ (keeps_next hu)) Each.set_entries (hmap _)
    · exact reads_collection _ ht.fresh hid (fun _ => rfl)
        (fun u hu => ih.blockItems _ _ (keeps_next hu)) Each.set_nodes (hlist _)
    · exact reads_collection _ ht.fresh hid (fun _ => rfl)
        (fun u hu => ih.blockEntries _ _ (keeps_next hu)) Each.set_entries (hmap _)
    · split
      · exact htext _ _ _ ht.fresh
      · exact .error _

end Readers

theorem readers (handles : Handles) (fuel : Nat) : Readers handles fuel := by
  induction fuel with
  | zero => exact .zero handles
  | succ fuel ih =>
      exact {
        node := fun block flat _ _ hs => ih.node_succ block flat hs
        blockItems := fun _ _ hs => ih.blockItems_succ hs
        flatItems := fun _ _ hs => ih.flatItems_succ hs
        blockPart := fun _ _ hs => ih.blockPart_succ hs
        blockEntries := fun _ _ hs => ih.blockEntries_succ hs
        flowPart := fun close _ _ hs => ih.flowPart_succ close hs
        flowEntry := fun close _ _ hs => ih.flowEntry_succ close hs
        flowItems := fun first _ _ hs => ih.flowItems_succ first hs
        flowEntries := fun first _ _ hs => ih.flowEntries_succ first hs }

namespace Document

/-- No number in a document is greater than its size, and aliases name collections. -/
structure Numbered (d : Document) : Prop where
  root : d.root.Numbered d.size
  anchored : ∀ a ∈ d.anchored, a.2.Numbered d.size
  collection : ∀ a ∈ d.anchored, ∀ id line, a.2 ≠ .cycle id line

/-- The nodes of a document and the collections that aliases can name have the numbers of a
register. -/
structure Recorded (d : Document) (r : Register) : Prop where
  count : r.count = d.size
  root : d.root.Recorded r
  anchored : ∀ a ∈ d.anchored, a.2.Recorded r
  number : ∀ a ∈ d.anchored, a.1 = a.2.mark.id
  collection : ∀ a ∈ d.anchored, ∀ id line, a.2 ≠ .cycle id line

/-- A document as it is put together from a text: no two of its nodes share a number, unless it is
that of a missing text. -/
def Composed (d : Document) : Prop :=
  ∃ r, d.Recorded r

theorem Composed.numbered {d : Document} (h : d.Composed) : d.Numbered := by
  obtain ⟨r, hr⟩ := h
  have hnumbered : ∀ {n : Node}, n.Recorded r → n.Numbered d.size := by
    intro n hn
    rw [← hr.count]
    exact hn.numbered
  exact ⟨hnumbered hr.root, fun a ha => hnumbered (hr.anchored a ha), hr.collection⟩

theorem of_mem_collections {r : Register} {s : TokenStream} (hs : r.Keeps s) :
    ∀ a ∈ s.collections,
      a.2.Recorded r ∧ a.1 = a.2.mark.id ∧ ∀ id line, a.2 ≠ .cycle id line := by
  intro a ha
  obtain ⟨⟨name, what⟩, he, hsome⟩ := List.mem_filterMap.mp ha
  have hnamed := hs.anchors _ (List.mem_reverse.mp he)
  dsimp only at hsome
  split at hsome
  · cases hsome
    exact ⟨hnamed, rfl, by simp⟩
  · cases hsome
    exact ⟨hnamed, rfl, by simp⟩
  · cases hsome

theorem composed_of_ofNode {r : Register} {n : Node} {s : TokenStream} (hn : n.Recorded r)
    (hs : r.Keeps s) {d : Document} (h : ofNode n s = .ok (some d)) : d.Composed := by
  unfold ofNode at h
  split at h
  · cases h
    have hnamed := of_mem_collections hs
    refine ⟨r, hs.count.symm, hn, ?_, ?_, ?_⟩
    · exact fun a ha => (hnamed a ha).1
    · exact fun a ha => (hnamed a ha).2.1
    · exact fun a ha => (hnamed a ha).2.2
  · cases h

theorem composed_of_ofContent {handles : Handles} {ts : List Token} {d : Document}
    (h : ofContent handles ts = .ok (some d)) : d.Composed := by
  unfold ofContent at h
  obtain ⟨⟨n, s⟩, hread, h⟩ := bind_eq_ok_iff.mp h
  have hnode := (readers handles (4 * ts.length + 8)).node true false _ _ (.start ts)
  rw [hread] at hnode
  obtain ⟨r, -, hkeeps, hn⟩ := hnode
  exact composed_of_ofNode hn hkeeps h

theorem composed_of_ofText {text : List Char} {d : Document} (h : ofText text = .ok (some d)) :
    d.Composed := by
  unfold ofText at h
  obtain ⟨ts, -, h⟩ := bind_eq_ok_iff.mp h
  have hexplicit : ∀ {ts}, ofExplicit ts = .ok (some d) → d.Composed := by
    intro ts h
    unfold ofExplicit at h
    dsimp only at h
    split at h
    · split at h
      · exact composed_of_ofNode (.missing _) (.start _) h
      · exact composed_of_ofContent h
    · cases h
  unfold ofTokens at h
  split at h
  · cases h
  · exact hexplicit h
  · exact hexplicit h
  · exact composed_of_ofContent h

end Document

theorem length_le_of_nodup {ids : List Nat} {k : Nat} (hnodup : ids.Nodup)
    (hle : ∀ i ∈ ids, i ≤ k) : ids.length ≤ k + 1 := by
  have hsub : ids ⊆ List.range (k + 1) := by
    intro i hi
    exact List.mem_range.mpr (Nat.lt_succ_of_le (hle i hi))
  have hlength := (hnodup.subperm hsub).length_le
  rwa [List.length_range] at hlength

end BoundaryLint.Yaml
