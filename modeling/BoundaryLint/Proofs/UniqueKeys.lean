import BoundaryLint.Proofs.OrdinaryDocuments

/-!
# Keys that are not used twice

A check of an ordinary document passes only if the keys of every mapping are told apart, wherever in
the document the mapping stands. While the check goes on, a collection that counts as done is a
mapping with keys told apart and nothing in it that was not met, or a list of which the same holds
or whose items are left for later. At the end nothing is left, and all that the document holds has
been met.
-/
namespace BoundaryLint.Yaml

/-- A text, or a collection that needs no further check. -/
def Progress.Met (p : Progress) : Node → Prop
  | .scalar _ _ => True
  | n => p.done.contains n.mark.id = true

namespace Document

/-- Keys that are told apart from each other and from those before them, the last one first. -/
def Apart (d : Document) : List Key → List (Node × Node) → Prop
  | _, [] => True
  | seen, e :: es =>
    ∃ key, d.keyOf e.1 = .ok key ∧ (∀ k ∈ seen, key.same k = false) ∧ d.Apart (key :: seen) es

/-- The one reason why an ordinary document is refused, whatever the error says. -/
def Refuses (d : Document) (_ : Error) : Prop :=
  ¬ d.KeysApart

/-- A node that was checked together with what it holds: a list may have items that are left for
later. -/
def Checked (d : Document) (pending : List Node) (p : Progress) : Node → Prop
  | .list m items => .list m items ∈ p.later ∨ .list m items ∈ pending ∨ ∀ i ∈ items, p.Met i
  | .map _ entries => d.Apart [] entries ∧ ∀ e ∈ entries, p.Met e.1 ∧ p.Met e.2
  | _ => True

/-- What counts as done was checked, except for the items of lists that are pending. -/
structure Closed (d : Document) (pending : List Node) (p : Progress) : Prop where
  later : ∀ n ∈ p.later, ∃ m items, n = .list m items
  checked : ∀ n, d.Holds n → p.done.contains n.mark.id = true → d.Checked pending p n

/-- A check goes on and leaves nothing unchecked behind. -/
structure Moves (d : Document) (pending : List Node) (p q : Progress) : Prop where
  advances : d.Advances p q
  closed : d.Closed pending p → d.Closed pending q

section
variable {d : Document} {r : Register} {n : Node} {around : List Nat} {pending : List Node}
  {p q : Progress}

theorem Advances.met (h : d.Advances p q) (hn : p.Met n) : q.Met n := by
  cases n with
  | scalar m text => trivial
  | list m items => exact h.done _ hn
  | map m entries => exact h.done _ hn
  | cycle id line => exact h.done _ hn

theorem Moves.refl (p : Progress) : d.Moves pending p p :=
  ⟨.refl d p, fun h => h⟩

theorem Moves.trans {s : Progress} (h : d.Moves pending p q) (h' : d.Moves pending q s) :
    d.Moves pending p s :=
  ⟨h.advances.trans h'.advances, fun hp => h'.closed (h.closed hp)⟩

/-! ### Keys -/

theorem apart_iff {seen : List Key} {entries : List (Node × Node)} :
    d.Apart seen entries ↔
      ∃ keys, List.Forall₂ (fun e key => d.keyOf e.1 = .ok key) entries keys ∧
        keys.Pairwise (fun a b => b.same a = false) ∧
        ∀ key ∈ keys, ∀ k ∈ seen, key.same k = false := by
  induction entries generalizing seen with
  | nil =>
      rw [Apart, true_iff]
      exact ⟨[], .nil, .nil, List.forall_mem_nil _⟩
  | cons e es ih =>
      rw [Apart]
      constructor
      · rintro ⟨key, hkey, hseen, hrest⟩
        obtain ⟨keys, hkeys, hapart, hbefore⟩ := ih.mp hrest
        refine ⟨key :: keys, .cons hkey hkeys, ?_, ?_⟩
        · refine List.pairwise_cons.mpr ⟨fun k hk => ?_, hapart⟩
          exact hbefore k hk key List.mem_cons_self
        · refine List.forall_mem_cons.mpr ⟨hseen, fun k hk => ?_⟩
          exact fun l hl => hbefore k hk l (List.mem_cons_of_mem _ hl)
      · rintro ⟨keys, hkeys, hapart, hbefore⟩
        cases hkeys with
        | @cons _ key _ keys hkey hkeys =>
            obtain ⟨hfirst, hapart⟩ := List.pairwise_cons.mp hapart
            obtain ⟨hseen, hbefore⟩ := List.forall_mem_cons.mp hbefore
            refine ⟨key, hkey, hseen, ih.mpr ⟨keys, hkeys, hapart, fun k hk => ?_⟩⟩
            exact List.forall_mem_cons.mpr ⟨hfirst k hk, hbefore k hk⟩

theorem apart_iff_tellsApart (ho : d.IsOrdinary) (hd : d.Recorded r) {m : Mark}
    {entries : List (Node × Node)} (hmap : d.Holds (.map m entries)) :
    d.Apart [] entries ↔ d.TellsApart (.map m entries) := by
  rw [apart_iff, TellsApart]
  refine exists_congr fun keys => and_congr_right fun hkeys => ?_
  have hheld : ∀ key ∈ keys, ∃ n, d.Holds n ∧ d.keyOf n = .ok key := by
    intro key hkey
    obtain ⟨e, he, hkeyOf⟩ := exists_of_mapM_eq_ok (mapM_eq_ok_iff.mpr hkeys) hkey
    exact ⟨e.1, hmap.key he, hkeyOf⟩
  have hsame : ∀ {k l}, k ∈ keys → l ∈ keys → (l.same k = false ↔ ¬ l.Clashes k) := by
    intro k l hk hl
    obtain ⟨a, ha, hak⟩ := hheld k hk
    obtain ⟨b, hb, hbl⟩ := hheld l hl
    rw [← same_iff_clashes ho hd hb ha hbl hak, Bool.not_eq_true]
  have hnone : ∀ key ∈ keys, ∀ k ∈ ([] : List Key), key.same k = false :=
    fun _ _ => List.forall_mem_nil _
  rw [and_iff_left hnone, List.Pairwise.iff_of_mem hsame]

theorem meets_checkKey_apart (seen : List Key) (n : Node) :
    Meets (d.checkKey seen n)
      (fun keys => ∃ key, d.keyOf n = .ok key ∧ (∀ k ∈ seen, key.same k = false) ∧
        keys = key :: seen)
      (fun _ => ¬ ∃ key, d.keyOf n = .ok key ∧ ∀ k ∈ seen, key.same k = false) := by
  unfold checkKey
  cases hkey : d.keyOf n with
  | error e =>
      rintro ⟨key, h, -⟩
      cases h
  | ok key =>
      change Meets (if seen.any key.same then _ else _) _ _
      split
      · rename_i hany
        obtain ⟨k, hk, hsame⟩ := List.any_eq_true.mp hany
        rintro ⟨key, h, hseen⟩
        cases h
        rw [hseen k hk] at hsame
        cases hsame
      · rename_i hany
        refine ⟨key, rfl, fun k hk => ?_, rfl⟩
        exact Bool.eq_false_iff.mpr fun hsame => hany (List.any_eq_true.mpr ⟨k, hk, hsame⟩)

/-- The keys of a mapping in turn: they are told apart, or the document is refused. -/
theorem meets_keys (check : Node → Progress → Except Error Progress)
    {entries : List (Node × Node)} {seen : List Key}
    (hcheck : ∀ e ∈ entries, ∀ q,
      Meets (check e.1 q) (fun s => d.Moves pending q s ∧ s.Met e.1) d.Refuses)
    (hseen : d.KeysApart → d.Apart seen entries) (p : Progress) :
    Meets (entries.foldlM (fun (p, seen) e => do
        let p ← check e.1 p
        let seen ← d.checkKey seen e.1
        return (p, seen)) (p, seen))
      (fun s => d.Moves pending p s.1 ∧ (∀ e ∈ entries, s.1.Met e.1) ∧ d.Apart seen entries)
      d.Refuses := by
  induction entries generalizing p seen with
  | nil => exact ⟨.refl p, List.forall_mem_nil _, trivial⟩
  | cons e es ih =>
      obtain ⟨hfirst, hrest⟩ := List.forall_mem_cons.mp hcheck
      rw [List.foldlM_cons, bind_assoc]
      refine (hfirst p).bind fun q hq => ?_
      have hrefuses : ∀ err, (¬ ∃ key, d.keyOf e.1 = .ok key ∧ ∀ k ∈ seen, key.same k = false) →
          d.Refuses err := by
        intro err hnone happart
        obtain ⟨key, hkeyOf, hsame, -⟩ := hseen happart
        exact hnone ⟨key, hkeyOf, hsame⟩
      rw [bind_assoc]
      have hkey := (meets_checkKey_apart seen e.1).mono (fun _ h => h) hrefuses
      refine hkey.bind fun keys hkeys => ?_
      obtain ⟨key, hkeyOf, hsame, rfl⟩ := hkeys
      rw [pure_bind]
      have hlast : d.KeysApart → d.Apart (key :: seen) es := by
        intro happart
        obtain ⟨key', hkeyOf', -, hlast⟩ := hseen happart
        cases hkeyOf.symm.trans hkeyOf'
        exact hlast
      refine (ih hrest hlast q).mono (fun s hs => ?_) fun _ he => he
      obtain ⟨hmoves, hmet, hapart⟩ := hs
      refine ⟨hq.1.trans hmoves, ?_, key, hkeyOf, hsame, hapart⟩
      exact List.forall_mem_cons.mpr ⟨hmoves.advances.met hq.2, hmet⟩

theorem meets_each {α : Type} {f : Progress → α → Except Error Progress} {l : List α}
    {R : α → Progress → Prop} (hR : ∀ {a p q}, d.Moves pending p q → R a p → R a q)
    (h : ∀ a ∈ l, ∀ q, Meets (f q a) (fun s => d.Moves pending q s ∧ R a s) d.Refuses)
    (p : Progress) :
    Meets (l.foldlM f p) (fun q => d.Moves pending p q ∧ ∀ a ∈ l, R a q) d.Refuses := by
  induction l generalizing p with
  | nil => exact ⟨.refl p, List.forall_mem_nil _⟩
  | cons a l ih =>
      obtain ⟨hfirst, hrest⟩ := List.forall_mem_cons.mp h
      rw [List.foldlM_cons]
      refine (hfirst p).bind fun q hq => ?_
      refine (ih hrest q).mono (fun s hs => ?_) fun _ he => he
      exact ⟨hq.1.trans hs.1, List.forall_mem_cons.mpr ⟨hR hs.1 hq.2, hs.2⟩⟩

/-! ### The check of one node -/

/-- The mappings around a node are larger than the node. -/
theorem Inside.exists_larger (ho : d.IsOrdinary) (h : d.Inside around n) :
    ∀ i ∈ around, ∃ m entries, d.Holds (.map m entries) ∧ m.id = i ∧
      sizeOf n < sizeOf (Node.map m entries) := by
  induction h with
  | held _ => exact List.forall_mem_nil _
  | @key around m entries e hmap _ _ he ih =>
      rw [ho.target (hmap.holds.key he)]
      have hlt := (Node.sizeOf_lt_of_mem_entries (m := m) he).1
      refine List.forall_mem_cons.mpr ⟨⟨m, entries, hmap.holds, rfl, hlt⟩, fun i hi => ?_⟩
      obtain ⟨m', entries', hmap', hid, hlarger⟩ := ih i hi
      exact ⟨m', entries', hmap', hid, Nat.lt_trans hlt hlarger⟩
  | @value around m entries e hmap _ _ he ih =>
      rw [ho.target (hmap.holds.value he)]
      have hlt := (Node.sizeOf_lt_of_mem_entries (m := m) he).2
      refine List.forall_mem_cons.mpr ⟨⟨m, entries, hmap.holds, rfl, hlt⟩, fun i hi => ?_⟩
      obtain ⟨m', entries', hmap', hid, hlarger⟩ := ih i hi
      exact ⟨m', entries', hmap', hid, Nat.lt_trans hlt hlarger⟩

theorem Inside.id_notMem (ho : d.IsOrdinary) (hd : d.Recorded r) (h : d.Inside around n) :
    n.mark.id ∉ around := by
  intro hmem
  obtain ⟨m, entries, hmap, hid, hlarger⟩ := h.exists_larger ho _ hmem
  have hnode := ho.eq_of_id hd hmap h.holds (hmap.id_pos_of_map hd) hid
  rw [hnode] at hlarger
  exact Nat.lt_irrefl _ hlarger

theorem Checked.mono (h : d.Checked pending p n) (hadvances : d.Advances p q)
    (hlater : ∀ n ∈ p.later, n ∈ q.later) : d.Checked pending q n := by
  cases n with
  | scalar m text => trivial
  | list m items =>
      rcases h with hn | hn | hmet
      · exact .inl (hlater _ hn)
      · exact .inr (.inl hn)
      · exact .inr (.inr fun i hi => hadvances.met (hmet i hi))
  | map m entries =>
      refine ⟨h.1, fun e he => ?_⟩
      exact ⟨hadvances.met (h.2 e he).1, hadvances.met (h.2 e he).2⟩
  | cycle id line => trivial

theorem Moves.of_done (ho : d.IsOrdinary) (hd : d.Recorded r) (hn : d.Holds n)
    (hpos : 0 < n.mark.id) (hadvances : d.Advances p q) (hlater : ∀ k ∈ p.later, k ∈ q.later)
    (hlists : (∀ k ∈ p.later, ∃ m items, k = .list m items) →
      ∀ k ∈ q.later, ∃ m items, k = .list m items)
    (hdone : ∀ i, q.done.contains i = true → n.mark.id = i ∨ p.done.contains i = true)
    (hchecked : d.Checked pending q n) : d.Moves pending p q := by
  refine ⟨hadvances, fun hclosed => ⟨hlists hclosed.later, fun k hk hdone' => ?_⟩⟩
  cases hdone _ hdone' with
  | inl hid =>
      have hnode := ho.eq_of_id hd hn hk hpos hid
      rwa [← hnode]
  | inr hbefore => exact (hclosed.checked k hk hbefore).mono hadvances hlater

theorem moves_postpone (ho : d.IsOrdinary) (hd : d.Recorded r) {m : Mark} {items : List Node}
    (hn : d.Holds (.list m items)) (hp : p.done.contains m.id = false) :
    d.Moves pending p (p.postpone (.list m items)) := by
  refine .of_done ho hd hn (hn.id_pos_of_list hd) (advances_postpone hn hp) ?_ ?_ ?_ ?_
  · exact fun k hk => List.mem_cons_of_mem _ hk
  · exact fun hlists => List.forall_mem_cons.mpr ⟨⟨m, items, rfl⟩, hlists⟩
  · intro i hi
    simpa [Progress.postpone, Progress.finish] using hi
  · exact .inl List.mem_cons_self

theorem moves_finish (ho : d.IsOrdinary) (hd : d.Recorded r) {m : Mark}
    {entries : List (Node × Node)} (hn : d.Holds (.map m entries)) (hapart : d.Apart [] entries)
    (hkeys : ∀ e ∈ entries, p.Met e.1) (hvalues : ∀ e ∈ entries, p.Met e.2) :
    d.Moves pending p (p.finish m) := by
  have hadvances := advances_finish d p m
  refine .of_done ho hd hn (hn.id_pos_of_map hd) hadvances (fun _ hk => hk) (fun h => h) ?_ ?_
  · intro i hi
    simpa [Progress.finish, Node.mark] using hi
  · exact ⟨hapart, fun e he => ⟨hadvances.met (hkeys e he), hadvances.met (hvalues e he)⟩⟩

theorem met_finish (p : Progress) (m : Mark) (entries : List (Node × Node)) :
    (p.finish m).Met (.map m entries) := by
  simp [Progress.Met, Progress.finish, Node.mark]

theorem met_postpone (p : Progress) (m : Mark) (items : List Node) :
    (p.postpone (.list m items)).Met (.list m items) := by
  simp [Progress.Met, Progress.postpone, Progress.finish, Node.mark]

/-- A mapping is done once its keys were told apart and its values were met. -/
theorem meets_mapping (ho : d.IsOrdinary) (hd : d.Recorded r) {m : Mark}
    {entries : List (Node × Node)} (hn : d.Holds (.map m entries))
    (check : Node → Progress → Except Error Progress)
    (hkey : ∀ e ∈ entries, ∀ q,
      Meets (check e.1 q) (fun s => d.Moves pending q s ∧ s.Met e.1) d.Refuses)
    (hvalue : ∀ e ∈ entries, ∀ q,
      Meets (check e.2 q) (fun s => d.Moves pending q s ∧ s.Met e.2) d.Refuses) (p : Progress) :
    Meets (do
        let (p, _) ← entries.foldlM (fun (p, seen) e => do
          let p ← check e.1 p
          let seen ← d.checkKey seen e.1
          return (p, seen)) (p, ([] : List Key))
        let p ← entries.foldlM (fun p e => check e.2 p) p
        .ok (p.finish m))
      (fun q => d.Moves pending p q ∧ q.Met (.map m entries)) d.Refuses := by
  have hseen : d.KeysApart → d.Apart [] entries :=
    fun happart => (apart_iff_tellsApart ho hd hn).mpr (happart _ hn)
  refine (meets_keys check hkey hseen p).bind fun s hs => ?_
  obtain ⟨hmoves, hkeys, hapart⟩ := hs
  refine (meets_each (R := fun e q => q.Met e.2) (fun h => h.advances.met) hvalue s.1).bind
    fun q hq => ?_
  have hfinish : d.Moves pending q (q.finish m) :=
    moves_finish ho hd hn hapart (fun e he => hq.1.advances.met (hkeys e he)) hq.2
  exact ⟨(hmoves.trans hq.1).trans hfinish, met_finish q m entries⟩

/-- The check of a node meets it and all that is not left for later, or the document is refused. -/
theorem meets_check_met (ho : d.IsOrdinary) (hd : d.Recorded r) (fuel : Nat) {around : List Nat}
    {n : Node} (hn : d.Inside around n) (hfuel : around.length + fuel = d.reach) (p : Progress) :
    Meets (d.check fuel around n p) (fun q => d.Moves pending p q ∧ q.Met n) d.Refuses := by
  have hnumbered : d.Numbered := Composed.numbered ⟨r, hd⟩
  induction fuel generalizing around n p with
  | zero =>
      have hlength := length_add_two_lt_reach hn.nodup (hn.le_size hnumbered)
      omega
  | succ fuel ih =>
      rw [check, ho.target hn.holds]
      dsimp only
      split
      · rename_i hdone
        refine ⟨.refl p, ?_⟩
        cases n with
        | scalar m text => trivial
        | list m items => exact hdone
        | map m entries => exact hdone
        | cycle id line => exact hdone
      · rename_i hdone
        have hid := hn.id_notMem ho hd
        have haround : ¬ around.contains n.mark.id = true := by simpa using hid
        rw [if_neg haround]
        cases n with
        | scalar m text =>
            obtain ⟨v, hv⟩ := ho.isPlain hn.holds
            have hleaf : ∀ tag, tag.isCollection = true → (Node.scalar m text).mark.tag ≠ tag := by
              rintro tag htag rfl
              exact absurd htag (Bool.eq_false_iff.mp (isCollection_of_scalarValue hv))
            split
            · exact absurd ‹_› (hleaf .list rfl)
            · exact absurd ‹_› (hleaf .entries rfl)
            · exact absurd ‹_› (hleaf .set rfl)
            · exact absurd ‹_› (hleaf .map rfl)
            · rw [leafValue_scalar, hv]
              exact ⟨.refl p, trivial⟩
        | list m items =>
            have htag : (Node.list m items).mark.tag = .list := ho.isPlain hn.holds
            rw [htag]
            have hnew : p.done.contains m.id = false := Bool.eq_false_iff.mpr hdone
            exact ⟨moves_postpone ho hd hn.holds hnew, met_postpone p m items⟩
        | map m entries =>
            have htag : (Node.map m entries).mark.tag = .map := ho.isPlain hn.holds
            rw [htag]
            have hlength : (m.id :: around).length + fuel = d.reach := by
              rw [List.length_cons]
              omega
            refine meets_mapping ho hd hn.holds (d.check fuel (m.id :: around))
              (fun e he q => ?_) (fun e he q => ?_) p
            · have hkey := hn.key htag hid he
              rw [ho.target (hn.holds.key he)] at hkey
              exact ih hkey hlength q
            · have hvalue := hn.value htag hid he
              rw [ho.target (hn.holds.value he)] at hvalue
              exact ih hvalue hlength q
        | cycle id line => exact (ho.isPlain hn.holds).elim

/-! ### The check of a document -/

theorem meets_checkAll_met (ho : d.IsOrdinary) (hd : d.Recorded r) {ns : List Node}
    (hns : ∀ n ∈ ns, d.Holds n) (p : Progress) :
    Meets (d.checkAll ns p) (fun q => d.Moves pending p q ∧ ∀ n ∈ ns, q.Met n) d.Refuses :=
  meets_each (R := fun n q => q.Met n) (fun h => h.advances.met)
    (fun n hn q => meets_check_met ho hd d.reach (.held (hns n hn)) (Nat.zero_add _) q) p

theorem meets_checkContent_met (ho : d.IsOrdinary) (hd : d.Recorded r) {m : Mark}
    {items : List Node} (hn : d.Holds (.list m items)) (p : Progress) :
    Meets (d.checkContent p (.list m items))
      (fun q => d.Moves pending p q ∧ ∀ i ∈ items, q.Met i) d.Refuses := by
  have htag : (Node.list m items).mark.tag = .list := ho.isPlain hn
  unfold checkContent
  rw [htag]
  exact meets_checkAll_met ho hd (fun i hi => hn.item hi) p

/-- What was left for later is pending in the next round. -/
theorem Closed.nextRound (hp : d.Closed [] p) : d.Closed p.later { p with later := [] } := by
  refine ⟨List.forall_mem_nil _, fun n hn hdone => ?_⟩
  have hchecked := hp.checked n hn hdone
  cases n with
  | scalar m text => trivial
  | list m items =>
      rcases hchecked with hlater | hpending | hmet
      · exact .inr (.inl hlater)
      · cases hpending
      · exact .inr (.inr hmet)
  | map m entries => exact hchecked
  | cycle id line => trivial

/-- Nothing is pending once the items of all pending lists were met. -/
theorem Closed.of_pending (hq : d.Closed pending q)
    (hmet : ∀ m items, .list m items ∈ pending → ∀ i ∈ items, q.Met i) : d.Closed [] q := by
  refine ⟨hq.later, fun n hn hdone => ?_⟩
  have hchecked := hq.checked n hn hdone
  cases n with
  | scalar m text => trivial
  | list m items =>
      rcases hchecked with hlater | hpending | hitems
      · exact .inl hlater
      · exact .inr (.inr (hmet m items hpending))
      · exact .inr (.inr hitems)
  | map m entries => exact hchecked
  | cycle id line => trivial

theorem meets_round (ho : d.IsOrdinary) (hd : d.Recorded r) (hlater : ∀ n ∈ p.later, d.Holds n)
    (hp : d.Closed [] p) :
    Meets (p.later.reverse.foldlM d.checkContent { p with later := [] })
      (fun q => d.Advances { p with later := [] } q ∧ d.Closed [] q) d.Refuses := by
  have hlist : ∀ n ∈ p.later.reverse, ∀ q, Meets (d.checkContent q n)
      (fun s => d.Moves p.later q s ∧ ∀ m items, n = .list m items → ∀ i ∈ items, s.Met i)
      d.Refuses := by
    intro n hn q
    have hmem := List.mem_reverse.mp hn
    obtain ⟨m, items, rfl⟩ := hp.later n hmem
    refine (meets_checkContent_met ho hd (hlater _ hmem) q).mono (fun s hs => ⟨hs.1, ?_⟩)
      fun _ he => he
    intro m' items' hnode
    cases hnode
    exact hs.2
  have hround := meets_each
    (fun h hn m items hnode i hi => h.advances.met (hn m items hnode i hi)) hlist
    { p with later := [] }
  refine hround.mono (fun q hq => ⟨hq.1.advances, ?_⟩) fun _ he => he
  refine (hq.1.closed hp.nextRound).of_pending fun m items hn i hi => ?_
  exact hq.2 _ (List.mem_reverse.mpr hn) m items rfl i hi

/-- Once nothing is left for later, all that a document holds has been met. -/
theorem Closed.met (ho : d.IsOrdinary) (hp : d.Closed [] p) (hlater : p.later = [])
    (hroot : p.Met d.root) (hn : d.Holds n) : p.Met n := by
  induction hn with
  | root => exact hroot
  | target hn ih =>
      rw [ho.target hn]
      exact ih
  | @item m items n hlist hn ih =>
      rcases hp.checked _ hlist ih with hleft | hpending | hmet
      · rw [hlater] at hleft
        cases hleft
      · cases hpending
      · exact hmet n hn
  | key hmap he ih => exact ((hp.checked _ hmap ih).2 _ he).1
  | value hmap he ih => exact ((hp.checked _ hmap ih).2 _ he).2

theorem meets_checked (ho : d.IsOrdinary) (hd : d.Recorded r) :
    Meets d.checked (fun _ => d.KeysApart) d.Refuses := by
  have hnumbered : d.Numbered := Composed.numbered ⟨r, hd⟩
  have hstart : d.Closed [] {} := by
    refine ⟨List.forall_mem_nil _, fun n _ hdone => ?_⟩
    simp at hdone
  have hroot : ∀ n ∈ [d.root], d.Holds n := by simpa using Holds.root
  have hfirst : Meets (d.checkAll [d.root] {})
      (fun p => d.Moves [] {} p ∧ ∀ n ∈ [d.root], p.Met n) d.Refuses :=
    meets_checkAll_met ho hd hroot {}
  unfold checked
  refine hfirst.bind fun p hp => ?_
  -- every round keeps that the lists left for later are of the document and the root was met
  refine meets_rounds hnumbered
    (I := fun p => (∀ n ∈ p.later, d.Holds n) ∧ d.Closed [] p ∧ p.Met d.root)
    (fun p hp => ?_) (fun p hp hlater => ?_) d.reach [] List.nodup_nil (List.forall_mem_nil _)
    (List.forall_mem_nil _) ⟨?_, hp.1.closed hstart, hp.2 _ List.mem_cons_self⟩
    (Nat.le_add_left _ _)
  · obtain ⟨hheld, hclosed, hmet⟩ := hp
    refine (meets_round ho hd hheld hclosed).mono (fun q hq => ?_) fun _ he => he
    have hleft : ∀ n ∈ q.later, d.Holds n :=
      fun n hn => ((hq.1.later n hn).resolve_left List.not_mem_nil).1
    have hbefore : Progress.Met { p with later := [] } d.root := hmet
    exact ⟨hq.1, hleft, hq.2, hq.1.met hbefore⟩
  · intro n hn
    cases n with
    | map m entries =>
        have hchecked := hp.2.1.checked _ hn (hp.2.1.met ho hlater hp.2.2 hn)
        exact (apart_iff_tellsApart ho hd hn).mp hchecked.1
    | _ => trivial
  · exact fun n hn => ((hp.1.advances.later n hn).resolve_left List.not_mem_nil).1

theorem load_of_ofText {text : List Char} (h : ofText text = .ok (some d)) :
    load text = d.loaded := by
  unfold load
  rw [h]

theorem meets_loaded (ho : d.IsOrdinary) (hd : d.Recorded r) :
    Meets d.loaded (fun v => d.KeysApart ∧ d.root.HasValue v) d.Refuses := by
  unfold loaded
  refine Meets.map ((meets_checked ho hd).mono (fun _ hkeys => ?_) fun _ he => he)
  exact ⟨hkeys, root_hasValue ho hd hkeys⟩

/-- An ordinary document is loaded if and only if the keys of every mapping are told apart, and then
each mapping has one entry for each of its keys, in their order. -/
theorem loaded_iff_keys_apart :
    (∀ text d, ofText text = .ok (some d) → d.Composed ∧ load text = d.loaded) ∧
    ∀ d : Document, d.Composed → d.IsOrdinary →
      ((∃ v, d.loaded = .ok v) ↔ d.KeysApart) ∧
      ∀ v, d.loaded = .ok v → d.root.HasValue v := by
  refine ⟨fun text d h => ⟨composed_of_ofText h, load_of_ofText h⟩, fun d hd ho => ?_⟩
  obtain ⟨r, hd⟩ := hd
  have hloaded := meets_loaded ho hd
  cases hresult : d.loaded with
  | ok v =>
      rw [hresult] at hloaded
      refine ⟨iff_of_true ⟨v, rfl⟩ hloaded.1, fun w hw => ?_⟩
      cases hw
      exact hloaded.2
  | error e =>
      refine ⟨iff_of_false ?_ (hloaded.fault hresult), ?_⟩
      · intro h
        obtain ⟨v, hv⟩ := h
        cases hv
      · intro v hv
        cases hv

end

end Document

/-! ### Documents with aliases and the missing number -/

namespace Document

def sharedMapping : Node :=
  .map { id := 3, tag := .map, line := 0, anchored := true } [
    (.scalar { id := 4, tag := .int, line := 0 } "1",
      .scalar { id := 5, tag := .str, line := 0 } "p"),
    (.scalar { id := 6, tag := .str, line := 0 } "1",
      .scalar { id := 7, tag := .str, line := 0 } "q")]

def sharing : Document where
  root := .map { id := 1, tag := .map, line := 0 } [
    (.scalar { id := 2, tag := .str, line := 0 } "a", sharedMapping),
    (.scalar { id := 8, tag := .str, line := 1 } "b",
      .list { id := 9, tag := .list, line := 1 } [sharedMapping])]
  anchored := [(3, sharedMapping)]
  size := 9

theorem isOrdinary_sharing : sharing.IsOrdinary := by
  have hshared : sharedMapping.Every Node.IsPlain :=
    .pair rfl (.text ⟨.int 1, rfl⟩) (.text ⟨_, rfl⟩) (.text ⟨_, rfl⟩) (.text ⟨_, rfl⟩)
  exact .pair rfl (.text ⟨_, rfl⟩) hshared (.text ⟨_, rfl⟩)
    (.list rfl (List.forall_mem_singleton.mpr hshared))

theorem keysApart_sharing : sharing.KeysApart := by
  have hshared : sharedMapping.Every sharing.TellsApart := by
    refine .pair ?_ (.text trivial) (.text trivial) (.text trivial) (.text trivial)
    refine ⟨[⟨.int 1, 5⟩, ⟨.str "1", 7⟩], .cons rfl (.cons rfl .nil), ?_⟩
    simp [Key.Clashes, Value.sameKey, Value.number?]
  have hroot : sharing.root.Every sharing.TellsApart := by
    refine .pair ?_ (.text trivial) hshared (.text trivial)
      (.list trivial (List.forall_mem_singleton.mpr hshared))
    refine ⟨[⟨.str "a", 3⟩, ⟨.str "b", 9⟩], .cons rfl (.cons rfl .nil), ?_⟩
    simp [Key.Clashes, Value.sameKey]
  exact fun n hn => (hn.every hroot).self

theorem composed_sharing : sharing.Composed := by
  let r : Register := .ofNodes [sharing.root, .scalar { id := 2, tag := .str, line := 0 } "a",
    sharedMapping, .scalar { id := 4, tag := .int, line := 0 } "1",
    .scalar { id := 5, tag := .str, line := 0 } "p",
    .scalar { id := 6, tag := .str, line := 0 } "1",
    .scalar { id := 7, tag := .str, line := 0 } "q",
    .scalar { id := 8, tag := .str, line := 1 } "b",
    .list { id := 9, tag := .list, line := 1 } [sharedMapping]]
  have hshared : sharedMapping.Every r.Has :=
    .pair ⟨by decide, by decide, rfl⟩ (.text ⟨by decide, by decide, rfl⟩)
      (.text ⟨by decide, by decide, rfl⟩) (.text ⟨by decide, by decide, rfl⟩)
      (.text ⟨by decide, by decide, rfl⟩)
  refine composed_of_every (r := r) rfl ?_ (List.forall_mem_singleton.mpr ⟨hshared, rfl⟩)
  refine .pair ⟨by decide, by decide, rfl⟩ (.text ⟨by decide, by decide, rfl⟩) hshared
    (.text ⟨by decide, by decide, rfl⟩) (.list ⟨by decide, by decide, rfl⟩ ?_)
  exact List.forall_mem_singleton.mpr hshared

theorem loaded_iff_keys_apart_sharing :
    sharing.Composed ∧ sharing.IsOrdinary ∧ sharing.KeysApart ∧
      ∃ v, sharing.loaded = .ok v ∧ sharing.root.HasValue v := by
  obtain ⟨hiff, hform⟩ := loaded_iff_keys_apart.2 sharing composed_sharing isOrdinary_sharing
  obtain ⟨v, hv⟩ := hiff.mpr keysApart_sharing
  exact ⟨composed_sharing, isOrdinary_sharing, keysApart_sharing, v, hv, hform v hv⟩

def missingTwice : Document where
  root := .map { id := 1, tag := .map, line := 0 } [
    (.scalar { id := 2, tag := .float, line := 0 } ".nan",
      .scalar { id := 3, tag := .int, line := 0 } "1"),
    (.scalar { id := 4, tag := .float, line := 0 } ".nan",
      .scalar { id := 5, tag := .int, line := 0 } "2")]
  size := 5

theorem isOrdinary_missingTwice : missingTwice.IsOrdinary :=
  .pair rfl (.text ⟨.float .nan, rfl⟩) (.text ⟨.int 1, rfl⟩) (.text ⟨.float .nan, rfl⟩)
    (.text ⟨.int 2, rfl⟩)

theorem composed_missingTwice : missingTwice.Composed := by
  let r : Register := .ofNodes [missingTwice.root,
    .scalar { id := 2, tag := .float, line := 0 } ".nan",
    .scalar { id := 3, tag := .int, line := 0 } "1",
    .scalar { id := 4, tag := .float, line := 0 } ".nan",
    .scalar { id := 5, tag := .int, line := 0 } "2"]
  refine composed_of_every (r := r) rfl ?_ (List.forall_mem_nil _)
  exact .pair ⟨by decide, by decide, rfl⟩ (.text ⟨by decide, by decide, rfl⟩)
    (.text ⟨by decide, by decide, rfl⟩) (.text ⟨by decide, by decide, rfl⟩)
    (.text ⟨by decide, by decide, rfl⟩)

theorem not_keysApart_missingTwice : ¬ missingTwice.KeysApart := by
  intro hkeys
  obtain ⟨keys, hpaired, hapart⟩ := hkeys _ .root
  have hkeyOf : missingTwice.keyOf (.scalar { id := 2, tag := .float, line := 0 } ".nan") =
      .ok ⟨.float .nan, 0⟩ := rfl
  have hkeyOf' : missingTwice.keyOf (.scalar { id := 4, tag := .float, line := 0 } ".nan") =
      .ok ⟨.float .nan, 0⟩ := rfl
  cases hpaired with
  | cons hfirst hrest =>
      cases hrest with
      | cons hsecond _ =>
          cases hkeyOf.symm.trans hfirst
          cases hkeyOf'.symm.trans hsecond
          have hclash := (List.pairwise_cons.mp hapart).1 _ List.mem_cons_self
          exact hclash (.inr ⟨rfl, rfl⟩)

/-- The missing number is not equal to itself, and yet it is refused as a key that is used twice. -/
theorem missing_number_is_one_key :
    missingTwice.Composed ∧ missingTwice.IsOrdinary ∧
      (∀ m entries, missingTwice.Holds (.map m entries) →
        ∃ keys, List.Forall₂ (fun e key => missingTwice.keyOf e.1 = .ok key) entries keys ∧
          keys.Pairwise fun a b => b.value.sameKey a.value = false) ∧
      ∃ e, missingTwice.loaded = .error e := by
  refine ⟨composed_missingTwice, isOrdinary_missingTwice, fun m entries hmap => ?_, ?_⟩
  · have hevery : missingTwice.root.Every fun n => ∀ m entries, n = .map m entries →
        ∃ keys, List.Forall₂ (fun e key => missingTwice.keyOf e.1 = .ok key) entries keys ∧
          keys.Pairwise fun a b => b.value.sameKey a.value = false := by
      refine .pair ?_ (.text ?_) (.text ?_) (.text ?_) (.text ?_)
      · intro m entries hnode
        cases hnode
        refine ⟨[⟨.float .nan, 0⟩, ⟨.float .nan, 0⟩], .cons rfl (.cons rfl .nil), ?_⟩
        simp [Value.sameKey, Value.number?, Value.sameNumber, Number.Binary64.same]
      all_goals
        intro m entries hnode
        cases hnode
    exact (hmap.every hevery).self m entries rfl
  · cases hloaded : missingTwice.loaded with
    | error e => exact ⟨e, rfl⟩
    | ok v =>
        obtain ⟨r, hd⟩ := composed_missingTwice
        have hmeets := meets_loaded isOrdinary_missingTwice hd
        rw [hloaded] at hmeets
        exact absurd hmeets.1 not_keysApart_missingTwice

end Document

end BoundaryLint.Yaml
