import BoundaryLint.Rule.Basic

/-!
# Hard-coded path separators

A string with a separator is flagged when it is joined by `+` to something that looks like a path,
and a template when a separator stands right next to a substitution that does. Addresses of
resources are left alone.
-/
namespace BoundaryLint.PathSeparator

/-- Parts of a text by which an address of a resource is recognised. -/
def urlMarkers : List String := ["://", "http:", "https:", "file:", "data:"]

def hasSeparator (text : String) : Bool :=
  !urlMarkers.any (Text.holds · text) && text.toList.any fun c => c == '/' || c == '\\'

def isPlus (n : Node) : Bool :=
  n.kind == "binary_expression" && (n.child? "operator").any (·.kind == "+")

/-- Whether a chain of `+` holds an operand that looks like a path. -/
def concatHasPath (s : Source) (n : Node) : Bool :=
  let cur := n.unwrapped
  have _ : sizeOf cur ≤ sizeOf n := n.sizeOf_unwrapped_le
  if isPlus cur then
    (match h : cur.child? "left" with
      | some l =>
        have : sizeOf l < sizeOf cur := Node.sizeOf_lt_of_child? h
        s.isPathLike l || concatHasPath s l
      | none => false) ||
    (match h : cur.child? "right" with
      | some r =>
        have : sizeOf r < sizeOf cur := Node.sizeOf_lt_of_child? h
        s.isPathLike r || concatHasPath s r
      | none => false)
  else false
termination_by sizeOf n

/-- Whether a string is joined to something that looks like a path. -/
def flagsString (s : Source) (t : Site) : Bool :=
  hasSeparator (s.literal t.node) &&
    t.parent?.any fun p =>
      isPlus p &&
        (p.child? (if t.node.field == some "left" then "right" else "left")).any fun other =>
          s.isPathLike other || concatHasPath s other

def isSeparatorByte (b : UInt8) : Bool :=
  b == 0x2f || b == 0x5c

/-- Whether a separator stands right before or right after a node. -/
def besideSeparator (s : Source) (n : Node) : Bool :=
  (n.label.start != 0 && (s.content[n.label.start - 1]?).any isSeparatorByte) ||
    (s.content[n.label.stop]?).any isSeparatorByte

/-- Whether a template has a separator next to a substitution that looks like a path. -/
def flagsTemplate (s : Source) (n : Node) : Bool :=
  let bytes := (s.content.drop n.label.start).take (n.label.stop - n.label.start)
  !(urlMarkers.any fun m => Text.holdsBy (· == ·) (Text.Utf8.encode m) bytes) &&
    n.namedChildren.any fun sub =>
      sub.kind == "template_substitution" && besideSeparator s sub &&
        sub.expressions.head?.any s.isPathLike

def flags (s : Source) (t : Site) : Bool :=
  if t.node.kind == "template_string" then flagsTemplate s t.node else flagsString s t

def rule : NodeRule where
  id := "no-hardcoded-path-separator"
  name := "NoHardcodedPathSeparator"
  description := "Join path segments with path.join()."
  message :=
    "Do not hardcode path separators. " ++
      "Use path.join() or path.resolve() so paths work on every platform."
  kinds := ["string", "template_string"]
  flags := flags

end BoundaryLint.PathSeparator
