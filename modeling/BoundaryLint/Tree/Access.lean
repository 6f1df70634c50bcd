import BoundaryLint.Text.Search
import BoundaryLint.Tree.Source

/-!
# Reading expressions

What the rules ask about expressions: the value of a literal, the expression inside parentheses, the
names of a chain of accesses, the function around a site, and whether an expression looks like a
path in a file system.
-/
namespace BoundaryLint

namespace Node

/-- The expression inside any parentheses. Parentheses that hold anything but one expression, comments
apart, are kept. -/
def unwrapped (n : Node) : Node :=
  if n.kind == "parenthesized_expression" then
    match h : n.expressions with
    | [c] =>
      have : sizeOf c < sizeOf n := sizeOf_lt_of_mem_expressions (h ▸ List.mem_singleton_self c)
      c.unwrapped
    | _ => n
  else n
termination_by sizeOf n

theorem sizeOf_unwrapped_le (n : Node) : sizeOf n.unwrapped ≤ sizeOf n := by
  fun_induction unwrapped n with
  | case1 n _ c _ hlt ih => omega
  | case2 => exact Nat.le_refl _
  | case3 => exact Nat.le_refl _

end Node

namespace Source

/-- The value of a literal: its text, for strings without the quotes. -/
def literal (s : Source) (n : Node) : String :=
  let cs := (s.text n).toList
  match cs with
  | q :: _ :: _ =>
    if Kind.isString n.kind && (q == '\'' || q == '"' || q == '\x60') then
      String.ofList (cs.tail.dropLast)
    else String.ofList cs
  | _ => String.ofList cs

/-- The names of a chain of accesses from `n` outwards, in front of the names in `inner`. -/
def chainFrom (s : Source) (inner : List String) (n : Node) : Option (List String) :=
  let cur := n.unwrapped
  have _ : sizeOf cur ≤ sizeOf n := n.sizeOf_unwrapped_le
  if cur.kind == "non_null_expression" then
    match h : cur.namedChildren with
    | c :: _ =>
      have : sizeOf c < sizeOf cur :=
        Node.sizeOf_lt_of_mem_namedChildren (h ▸ List.mem_cons_self)
      chainFrom s inner c
    | [] => none
  else if cur.kind == "member_expression" then
    match cur.child? "property" with
    | some p =>
      if Kind.isIdentifier p.kind then
        match h : cur.child? "object" with
        | some o =>
          have : sizeOf o < sizeOf cur := Node.sizeOf_lt_of_child? h
          chainFrom s (s.text p :: inner) o
        | none => none
      else none
    | none => none
  else if Kind.isIdentifier cur.kind || cur.kind == "this" then some (s.text cur :: inner)
  else none
termination_by sizeOf n

/-- The names of an access such as `window.localStorage.getItem`. There is none if the chain holds
anything but identifiers, `this` and plain property accesses. -/
def chain? (s : Source) (n : Node) : Option (List String) :=
  s.chainFrom [] n

/-- The names of what a call expression calls. -/
def callee? (s : Source) (n : Node) : Option (List String) :=
  if n.kind == "call_expression" then (n.child? "function").bind s.chain? else none

/-- The name of a function: its own, or that of the variable, property or field it is assigned to. -/
def functionName? (s : Source) (f : Node) (parent? : Option Node) : Option String :=
  match f.child? "name" with
  | some n => some (s.text n)
  | none =>
    match parent? with
    | none => none
    | some p =>
      if ["variable_declarator", "public_field_definition", "field_definition"].contains p.kind then
        ((p.child? "name").or (p.child? "property")).map s.text
      else if p.kind == "pair" then (p.child? "key").map s.literal
      else if p.kind == "assignment_expression" then
        ((p.child? "left").bind s.chain?).bind List.getLast?
      else none

/-- The name of the nearest named function among the ancestors. -/
def enclosingFunction? (s : Source) : List Node → Option String
  | [] => none
  | f :: outer =>
    if Kind.isFunction f.kind then
      (s.functionName? f outer.head?).or (s.enclosingFunction? outer)
    else s.enclosingFunction? outer

/-- Parts of names that speak of places in a file system. -/
def pathWords : List String := ["path", "dir", "folder", "file", "root", "home", "cwd"]

def isPathName (name : String) : Bool :=
  pathWords.any fun w => Text.holdsIgnoringCase w name

/-- Whether an expression looks like a path in a file system, judged by its names. -/
def isPathLike (s : Source) (n : Node) : Bool :=
  let e := n.unwrapped
  if e.kind == "call_expression" then
    match s.callee? e with
    | some names => names.head? == some "path" || names.getLast?.any isPathName
    | none => false
  else
    match s.chain? e with
    | some names => names.getLast?.any isPathName
    | none => false

end Source

end BoundaryLint
