import BoundaryLint.Text.Base64
import BoundaryLint.Yaml.Error
import BoundaryLint.Yaml.Tag

/-!
# The values of texts
-/
namespace BoundaryLint.Yaml

/-- The value of a text of a kind. Kinds of collections have none. -/
def scalarValue (tag : Tag) (s : String) : Except Error Value :=
  match tag with
  | .null => .ok .null
  | .bool =>
    let word := String.ofList (Text.lowerText s.toList)
    if Tag.trueWords.contains word then .ok (.bool true)
    else if Tag.falseWords.contains word then .ok (.bool false)
    else .error (.truth word)
  | .int =>
    match intOf s with
    | .ok n => .ok (.int n)
    | .error f => .error (.number f)
  | .float =>
    match floatOf s with
    | .ok x => .ok (.float x)
    | .error f => .error (.number f)
  | .str => .ok (.str s)
  | .timestamp =>
    match Timestamp.ofText? s with
    | none => .error .notATime
    | some t =>
      match t.fault? with
      | none => .ok (.time t)
      | some reason => .error (.timestamp reason)
  | .binary =>
    match Text.Base64.decode? s.toList with
    | some data => .ok (.bytes data)
    | none => .error (.invalid none)
  | _ => .error (.invalid none)

/-- A value as a key. Values that are not equal to themselves are one key if they are one object. -/
structure Key where
  value : Value
  object : Nat
  deriving Repr

namespace Key

def same (a b : Key) : Bool :=
  a.value.sameKey b.value || a.object == b.object

/-- Keys without those that are the same as one before them. -/
def distinct (keys : List Key) : List Key :=
  (keys.foldl (fun seen k => if seen.any k.same then seen else k :: seen) []).reverse

end Key

end BoundaryLint.Yaml
