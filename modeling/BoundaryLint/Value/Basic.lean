import BoundaryLint.Number.Binary64
import BoundaryLint.Value.Timestamp

/-!
# Configuration values

The values that configuration data is made of. A mapping keeps its entries in the order in which
they were written, and its keys may be of any kind. A value that contains itself is unrolled as far
as anyone can look into it; its collections then have labels, and two of one label are one
collection.
-/
namespace BoundaryLint

open Number (Binary64)

/-- What tells the collections of a value that contains itself apart: the number of a collection and,
for a pair in a list, its place there from one on. -/
abbrev Value.Identity := Nat × Nat

/-- A value of configuration data. -/
inductive Value where
  | null
  | bool (b : Bool)
  | int (n : Int)
  | float (x : Binary64)
  | str (s : String)
  | bytes (data : List UInt8)
  | time (t : Timestamp)
  | list (label : Option Value.Identity) (items : List Value)
  | pair (label : Option Value.Identity) (first second : Value)
  | set (members : List Value)
  | map (label : Option Value.Identity) (entries : List (Value × Value))
  deriving Repr, Inhabited

namespace Value

/-- A list that is no part of itself. -/
def ofList (items : List Value) : Value :=
  .list none items

/-- The number that a value counts as in a comparison. Truth values count as zero and one. -/
def number? : Value → Option (Int ⊕ Binary64)
  | .bool b => some (.inl (if b then 1 else 0))
  | .int n => some (.inl n)
  | .float x => some (.inr x)
  | _ => none

/-- Equality of numbers across their kinds. -/
def sameNumber : Int ⊕ Binary64 → Int ⊕ Binary64 → Bool
  | .inl m, .inl n => m == n
  | .inl m, .inr y => y.toInt? == some m
  | .inr x, .inl n => x.toInt? == some n
  | .inr x, .inr y => x.same y

/-- Equality of values as mapping keys: `1`, `1.0` and `true` are one key. -/
def sameKey : Value → Value → Bool
  | .null, .null => true
  | .str s, .str t => s == t
  | .bytes s, .bytes t => s == t
  | .time s, .time t => s.same t
  | a, b =>
    match a.number?, b.number? with
    | some x, some y => sameNumber x y
    | _, _ => false

/-- The entry of a mapping under a text key. -/
def find? (entries : List (Value × Value)) (key : String) : Option Value :=
  (entries.find? fun e => e.1.sameKey (.str key)).map (·.2)

/-- The name of a value's kind in messages. -/
def kindName : Value → String
  | .null => "NoneType"
  | .bool _ => "bool"
  | .int _ => "int"
  | .float _ => "float"
  | .str _ => "str"
  | .bytes _ => "bytes"
  | .time t => if t.time.isSome then "datetime" else "date"
  | .list _ _ => "list"
  | .pair _ _ _ => "tuple"
  | .set _ => "set"
  | .map _ _ => "dict"

/-- The use of a collection where a key is looked up. -/
structure NotAKey where
  kind : String
  deriving DecidableEq, Repr

def NotAKey.message (f : NotAKey) : String :=
  "unhashable type: '" ++ f.kind ++ "'"

/-- The value as a key. Lists, sets and mappings cannot be keys, and no more can a pair with one of
them in it. -/
def asKey : Value → Except NotAKey Value
  | .pair label a b => do
    let a ← a.asKey
    let b ← b.asKey
    .ok (.pair label a b)
  | .list label items => .error ⟨kindName (.list label items)⟩
  | .set members => .error ⟨kindName (.set members)⟩
  | .map label entries => .error ⟨kindName (.map label entries)⟩
  | v => .ok v

/-- The value as one to be found among the members of a set. A set is compared with them by its own
members and need not be a key. -/
def asMember : Value → Except NotAKey Value
  | .set members => .ok (.set members)
  | v => v.asKey

end Value

end BoundaryLint
