import BoundaryLint.Rule.Basic

/-!
# Inline checks of the platform

Comparisons with a platform source, a switch over one, and calls that probe the text of one are
flagged. A platform source is an expression such as `process.platform` or `os.platform()`.
-/
namespace BoundaryLint.PlatformCheck

def members : List (List String) :=
  [["process", "platform"], ["navigator", "platform"], ["navigator", "userAgent"],
   ["window", "navigator", "platform"], ["window", "navigator", "userAgent"],
   ["navigator", "userAgentData", "platform"]]

def calls : List (List String) := [["os", "platform"], ["os", "type"]]

def equalityOperators : List String := ["===", "!==", "==", "!="]

/-- Methods that probe the text of the object they are called on. -/
def probes : List String := ["includes", "startsWith", "endsWith", "indexOf", "match", "test"]

/-- Whether an expression reads the platform, also through type assertions. -/
def isPlatformSource (s : Source) (n : Node) : Bool :=
  let cur := n.unwrapped
  have _ : sizeOf cur ≤ sizeOf n := n.sizeOf_unwrapped_le
  if cur.kind == "as_expression" then
    match h : cur.namedChildren with
    | c :: _ =>
      have : sizeOf c < sizeOf cur := Node.sizeOf_lt_of_mem_namedChildren (h ▸ List.mem_cons_self)
      isPlatformSource s c
    | [] => (s.chain? cur).any members.contains
  else if cur.kind == "call_expression" then (s.callee? cur).any calls.contains
  else (s.chain? cur).any members.contains
termination_by sizeOf n

/-- Whether a call probes a platform source: as the object of the call or as an argument. -/
def isProbe (s : Source) (n : Node) : Bool :=
  match (n.child? "function").map (·.unwrapped) with
  | none => false
  | some callee =>
    callee.kind == "member_expression" &&
      ((callee.child? "property").any fun p => probes.contains (s.text p)) &&
      ((callee.child? "object").any (isPlatformSource s) ||
        (n.child? "arguments").any fun args => args.namedChildren.any (isPlatformSource s))

def flags (s : Source) (t : Site) : Bool :=
  if t.node.kind == "binary_expression" then
    ((t.node.child? "operator").any fun o => equalityOperators.contains o.kind) &&
      ((t.node.child? "left").any (isPlatformSource s) ||
        (t.node.child? "right").any (isPlatformSource s))
  else if t.node.kind == "switch_statement" then (t.node.child? "value").any (isPlatformSource s)
  else isProbe s t.node

def rule : NodeRule where
  id := "no-direct-platform-check"
  name := "NoDirectPlatformCheck"
  description := "Check the platform through the platform helpers."
  message :=
    "Do not check the platform inline. " ++
      "Use isMac(), isWindows() or isLinux() from the platform module."
  kinds := ["binary_expression", "switch_statement", "call_expression"]
  flags := flags

end BoundaryLint.PlatformCheck
