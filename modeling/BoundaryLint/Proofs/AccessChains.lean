import BoundaryLint.Tree.Access

/-!
# Chains of accesses

An expression reads as a chain of names if it is built from a name by plain property accesses, with
parentheses and non-null marks around any part of it. The search for the names goes from the outside
in and takes off parentheses and marks on the way. It finds the names of every such expression, and
none for any other one. So the names do not depend on what is wrapped around the parts.
-/
namespace BoundaryLint

namespace Kind

/-- The kinds of names that a chain can begin with. -/
def isName (kind : String) : Bool := isIdentifier kind || kind == "this"

end Kind

/-! ### Layers -/

namespace Node

theorem unwrapped_of_ne {n : Node} (h : n.kind ≠ "parenthesized_expression") : n.unwrapped = n := by
  rw [unwrapped, if_neg (by simpa using h)]

theorem unwrapped_of_parens {n c : Node} (h : n.kind = "parenthesized_expression")
    (hc : n.expressions = [c]) : n.unwrapped = c.unwrapped := by
  rw [unwrapped, if_pos (by simpa using h)]
  split
  · rename_i d hd
    rw [hc] at hd
    cases hd
    rfl
  · rename_i hother
    exact absurd hc (hother c)

end Node

namespace Source
variable {s : Source} {n c o p : Node} {names : List String}

/-- The layer of a chain that stands under any parentheses, and what is under it. -/
theorem chainFrom_eq (s : Source) (inner : List String) (n : Node) :
    s.chainFrom inner n =
      if n.unwrapped.kind == "non_null_expression" then
        n.unwrapped.namedChildren.head?.bind (s.chainFrom inner)
      else if n.unwrapped.kind == "member_expression" then
        (n.unwrapped.child? "property").bind fun p =>
          if Kind.isIdentifier p.kind then
            (n.unwrapped.child? "object").bind (s.chainFrom (s.text p :: inner))
          else none
      else if Kind.isIdentifier n.unwrapped.kind || n.unwrapped.kind == "this" then
        some (s.text n.unwrapped :: inner)
      else none := by
  rw [chainFrom]
  congr 1
  · split
    · rename_i hc
      exact (congrArg (fun cs => cs.head?.bind (s.chainFrom inner)) hc).symm
    · rename_i hc
      exact (congrArg (fun cs => cs.head?.bind (s.chainFrom inner)) hc).symm
  · congr 1
    cases n.unwrapped.child? "property" with
    | none => rfl
    | some p =>
      simp only [Option.bind_some]
      congr 1
      split
      · rename_i ho
        exact (congrArg (Option.bind · (s.chainFrom (s.text p :: inner))) ho).symm
      · rename_i ho
        exact (congrArg (Option.bind · (s.chainFrom (s.text p :: inner))) ho).symm

theorem chainFrom_of_isName (inner : List String) (h : Kind.isName n.kind = true) :
    s.chainFrom inner n = some (s.text n :: inner) := by
  have hparens : n.kind ≠ "parenthesized_expression" :=
    ne_of_apply_ne Kind.isName (by rw [h]; decide)
  have hnonNull : n.kind ≠ "non_null_expression" := ne_of_apply_ne Kind.isName (by rw [h]; decide)
  have hmember : n.kind ≠ "member_expression" := ne_of_apply_ne Kind.isName (by rw [h]; decide)
  rw [s.chainFrom_eq, Node.unwrapped_of_ne hparens, if_neg (by simpa using hnonNull),
    if_neg (by simpa using hmember)]
  exact if_pos h

theorem chainFrom_of_access (inner : List String) (hkind : n.kind = "member_expression")
    (hp : n.child? "property" = some p) (ho : n.child? "object" = some o) :
    s.chainFrom inner n =
      if Kind.isIdentifier p.kind then s.chainFrom (s.text p :: inner) o else none := by
  rw [s.chainFrom_eq, Node.unwrapped_of_ne (by simp [hkind]), if_neg (by simp [hkind]),
    if_pos (by simp [hkind]), hp, Option.bind_some, ho, Option.bind_some]

theorem chainFrom_of_parens (inner : List String) (hkind : n.kind = "parenthesized_expression")
    (hc : n.expressions = [c]) : s.chainFrom inner n = s.chainFrom inner c := by
  rw [s.chainFrom_eq, s.chainFrom_eq inner c, Node.unwrapped_of_parens hkind hc]

theorem chainFrom_of_nonNull (inner : List String) (hkind : n.kind = "non_null_expression")
    (hc : n.namedChildren.head? = some c) : s.chainFrom inner n = s.chainFrom inner c := by
  rw [s.chainFrom_eq, Node.unwrapped_of_ne (by simp [hkind]), if_pos (by simp [hkind]), hc,
    Option.bind_some]

/-! ### What an expression reads as -/

/-- The names that a chain of accesses is made of, from the first one on. -/
inductive ReadsAs (s : Source) : Node → List String → Prop
  | name {n : Node} : Kind.isName n.kind = true → ReadsAs s n [s.text n]
  | access {n o p : Node} {names : List String} : n.kind = "member_expression" →
      n.child? "property" = some p → Kind.isIdentifier p.kind = true →
      n.child? "object" = some o → ReadsAs s o names → ReadsAs s n (names ++ [s.text p])
  | parens {n c : Node} {names : List String} : n.kind = "parenthesized_expression" →
      n.expressions = [c] → ReadsAs s c names → ReadsAs s n names
  | nonNull {n c : Node} {names : List String} : n.kind = "non_null_expression" →
      n.namedChildren.head? = some c → ReadsAs s c names → ReadsAs s n names

theorem ReadsAs.chainFrom (h : ReadsAs s n names) (inner : List String) :
    s.chainFrom inner n = some (names ++ inner) := by
  induction h generalizing inner with
  | name hname => exact chainFrom_of_isName inner hname
  | @access n o p names hkind hp hid ho _ ih =>
      rw [chainFrom_of_access inner hkind hp ho, if_pos hid, ih, List.append_assoc,
        List.singleton_append]
  | parens hkind hc _ ih => rw [chainFrom_of_parens inner hkind hc, ih]
  | nonNull hkind hc _ ih => rw [chainFrom_of_nonNull inner hkind hc, ih]

theorem ReadsAs.of_unwrapped (h : ReadsAs s n.unwrapped names) : ReadsAs s n names := by
  fun_induction Node.unwrapped n with
  | case1 n hkind c hc _ ih => exact .parens (by simpa using hkind) hc (ih h)
  | case2 n _ _ => exact h
  | case3 n _ => exact h

/-- What is found is in front of the names that were found before. -/
theorem exists_readsAs_of_chainFrom {inner found : List String}
    (h : s.chainFrom inner n = some found) :
    ∃ names, ReadsAs s n names ∧ found = names ++ inner := by
  fun_induction Source.chainFrom s inner n with
  | case1 inner n cur _ hkind c cs hc _ ih =>
      obtain ⟨names, hreads, hfound⟩ := ih h
      have hcur : ReadsAs s n.unwrapped names :=
        .nonNull (by simpa using hkind) (by rw [hc]; rfl) hreads
      exact ⟨names, hcur.of_unwrapped, hfound⟩
  | case2 => cases h
  | case3 inner n cur _ _ hkind p hp hid o ho _ ih =>
      obtain ⟨names, hreads, hfound⟩ := ih h
      have hcur : ReadsAs s n.unwrapped (names ++ [s.text p]) :=
        .access (by simpa using hkind) hp hid ho hreads
      refine ⟨names ++ [s.text p], hcur.of_unwrapped, ?_⟩
      rw [hfound, List.append_assoc, List.singleton_append]
  | case4 => cases h
  | case5 => cases h
  | case6 => cases h
  | case7 inner n cur _ _ _ hname =>
      cases h
      have hcur : ReadsAs s n.unwrapped [s.text n.unwrapped] := .name hname
      exact ⟨[s.text n.unwrapped], hcur.of_unwrapped, rfl⟩
  | case8 => cases h

theorem chain?_eq_some_iff : s.chain? n = some names ↔ ReadsAs s n names := by
  constructor
  · intro h
    obtain ⟨found, hreads, hfound⟩ := exists_readsAs_of_chainFrom h
    rw [hfound, List.append_nil]
    exact hreads
  · intro h
    rw [chain?, h.chainFrom [], List.append_nil]

/-! ### Wrappings -/

/-- Expressions of two files that differ in nothing but parentheses, comments in them and non-null
marks, at any depth. -/
inductive Alike : Source → Node → Source → Node → Prop
  | refl (s : Source) (n : Node) : Alike s n s n
  | symm {s s' : Source} {n m : Node} : Alike s n s' m → Alike s' m s n
  | trans {s s' s'' : Source} {n m k : Node} : Alike s n s' m → Alike s' m s'' k → Alike s n s'' k
  | parens {s : Source} {n c : Node} : n.kind = "parenthesized_expression" →
      n.expressions = [c] → Alike s n s c
  | nonNull {s : Source} {n c : Node} : n.kind = "non_null_expression" →
      n.namedChildren.head? = some c → Alike s n s c
  | name {s s' : Source} {n m : Node} : Kind.isName n.kind = true → Kind.isName m.kind = true →
      s.text n = s'.text m → Alike s n s' m
  | access {s s' : Source} {n m o u p q : Node} : n.kind = "member_expression" →
      m.kind = "member_expression" → n.child? "property" = some p → m.child? "property" = some q →
      Kind.isIdentifier p.kind = Kind.isIdentifier q.kind → s.text p = s'.text q →
      n.child? "object" = some o → m.child? "object" = some u → Alike s o s' u → Alike s n s' m

theorem Alike.chainFrom_eq {s s' : Source} {n m : Node} (h : Alike s n s' m)
    (inner : List String) : s.chainFrom inner n = s'.chainFrom inner m := by
  induction h generalizing inner with
  | refl => rfl
  | symm _ ih => exact (ih inner).symm
  | trans _ _ ih ih' => exact (ih inner).trans (ih' inner)
  | parens hkind hc => exact chainFrom_of_parens inner hkind hc
  | nonNull hkind hc => exact chainFrom_of_nonNull inner hkind hc
  | name hn hm htext => rw [chainFrom_of_isName inner hn, chainFrom_of_isName inner hm, htext]
  | access hn hm hp hq hid htext ho hu _ ih =>
      rw [chainFrom_of_access inner hn hp ho, chainFrom_of_access inner hm hq hu, hid, htext, ih]

/-- The search finds the names of an expression exactly if it reads as them, and otherwise none. So
parentheses, comments in them and non-null marks do not change what is found. -/
theorem chain_found_iff_readsAs (s : Source) (n : Node) :
    (∀ names, s.chain? n = some names ↔ ReadsAs s n names) ∧
      (s.chain? n = none ↔ ∀ names, ¬ReadsAs s n names) ∧
      ∀ s' m, Alike s n s' m → s.chain? n = s'.chain? m := by
  refine ⟨fun names => chain?_eq_some_iff, ?_, fun s' m h => h.chainFrom_eq []⟩
  rw [Option.eq_none_iff_forall_ne_some]
  exact forall_congr' fun names => not_congr chain?_eq_some_iff

/-! ### One chain in two wrappings -/

def characterNode (kind : String) (start : Nat) (field : Option String) : Node :=
  .mk { kind, named := kind.length != 1, start, stop := start + 1, field } []

/-- The expression `a.b`. -/
def plainAccess : Node :=
  .mk { kind := "member_expression", stop := 3 }
    [characterNode "identifier" 0 (some "object"), characterNode "." 1 none,
     characterNode "property_identifier" 2 (some "property")]

def plainSource : Source where
  path := "a.ts"
  content := "a.b".toUTF8.toList
  root := plainAccess

/-- The expression `((a /**/)!.b)`. -/
def wrappedAccess : Node :=
  .mk { kind := "parenthesized_expression", stop := 13 }
    [characterNode "(" 0 none,
     .mk { kind := "member_expression", start := 1, stop := 12 }
      [.mk { kind := "non_null_expression", start := 1, stop := 10, field := some "object" }
        [.mk { kind := "parenthesized_expression", start := 1, stop := 9 }
          [characterNode "(" 1 none, characterNode "identifier" 2 none,
           .mk { kind := "comment", start := 4, stop := 8 } [], characterNode ")" 8 none],
         characterNode "!" 9 none],
       characterNode "." 10 none, characterNode "property_identifier" 11 (some "property")],
     characterNode ")" 12 none]

def wrappedSource : Source where
  path := "b.ts"
  content := "((a /**/)!.b)".toUTF8.toList
  root := wrappedAccess

/-- The names are found behind parentheses, a comment and a non-null mark. -/
theorem chain_found_iff_readsAs_wrappedAccess :
    ReadsAs plainSource plainAccess ["a", "b"] ∧
      Alike plainSource plainAccess wrappedSource wrappedAccess ∧
      plainSource.chain? plainAccess = some ["a", "b"] ∧
      wrappedSource.chain? wrappedAccess = some ["a", "b"] := by
  have ha : plainSource.text (characterNode "identifier" 0 (some "object")) = "a" := by
    decide +kernel
  have hb : plainSource.text (characterNode "property_identifier" 2 (some "property")) = "b" := by
    decide +kernel
  have ha' : wrappedSource.text (characterNode "identifier" 2 none) = "a" := by decide +kernel
  have hb' : wrappedSource.text (characterNode "property_identifier" 11 (some "property")) =
      "b" := by decide +kernel
  have hreads : ReadsAs plainSource plainAccess ["a", "b"] := by
    rw [← ha, ← hb]
    exact .access rfl rfl (by decide) rfl (.name (by decide))
  have halike : Alike plainSource plainAccess wrappedSource wrappedAccess :=
    .trans
      (.access rfl rfl rfl rfl (by decide) (hb.trans hb'.symm) rfl rfl
        (.trans (.name (by decide) (by decide) (ha.trans ha'.symm))
          (.symm (.trans (.nonNull rfl rfl) (.parens rfl rfl)))))
      (.symm (.parens rfl rfl))
  obtain ⟨hsome, -, hsame⟩ := chain_found_iff_readsAs plainSource plainAccess
  have hplain := (hsome ["a", "b"]).mpr hreads
  exact ⟨hreads, halike, hplain, (hsame _ _ halike).symm.trans hplain⟩

end Source

end BoundaryLint
