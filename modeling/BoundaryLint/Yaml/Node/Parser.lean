import BoundaryLint.Yaml.Node.Basic
import BoundaryLint.Yaml.Token.Lexer

/-!
# The nodes that tokens write

One token of look-ahead decides what comes next. The functions take fuel, of which the number of
tokens is a bound: between two calls that take no token there is one that does.
-/
namespace BoundaryLint.Yaml

/-- What has been read under an anchor: a node, or a collection that is still open. -/
inductive Anchored where
  | node (n : Node)
  | opened (id line : Nat)
  deriving Repr

/-- The tokens that are left, the anchors so far, the last one first, and the number of nodes. -/
structure TokenStream where
  tokens : List Token
  anchors : List (String × Anchored) := []
  count : Nat := 0
  cyclic : Bool := false
  deriving Repr

namespace TokenStream

def head (s : TokenStream) : TokenKind :=
  match s.tokens with
  | [] => .streamEnd
  | t :: _ => t.kind

/-- The line of the next token. -/
def line (s : TokenStream) : Nat :=
  match s.tokens with
  | [] => 0
  | t :: _ => t.line

def next (s : TokenStream) : TokenStream :=
  { s with tokens := s.tokens.tail }

/-- The fault of a document with an unexpected token here. -/
def fault (s : TokenStream) : Fault :=
  match s.head with
  | .beyondCodes n => .beyondCodes n
  | _ => .malformed

/-- Past a token of a kind, which must stand here. -/
def expect (s : TokenStream) (kind : TokenKind) : Except Fault TokenStream :=
  if s.head == kind then .ok s.next else .error s.fault

/-- The number of the next node. Numbers start from one. -/
def fresh (s : TokenStream) : Nat × TokenStream :=
  (s.count + 1, { s with count := s.count + 1 })

def bindAnchor (s : TokenStream) (name : Option String) (a : Anchored) : TokenStream :=
  match name with
  | none => s
  | some n => { s with anchors := (n, a) :: s.anchors }

def anchored? (s : TokenStream) (name : String) : Option Anchored :=
  (s.anchors.find? fun a => a.1 == name).map (·.2)

end TokenStream

/-- The tag handles of a document. -/
abbrev Handles := List (String × String)

/-- The handles that every document has. -/
def defaultHandles : Handles :=
  [("!", "!"), ("!!", Tag.commonFront)]

/-- The full name of a tag. -/
def WrittenTag.name? (handles : Handles) (t : WrittenTag) : Option String :=
  match t.handle with
  | none => some t.suffix
  | some h => ((handles.find? fun e => e.1 == h).map (·.2)).map (· ++ t.suffix)

/-- The anchor and the tag before a node, in either order. -/
structure Properties where
  anchor : Option String := none
  tag : Option String := none
  line : Nat
  deriving DecidableEq, Repr

namespace Properties

/-- Whether the tag leaves the kind of the node open. -/
def isOpen (p : Properties) : Bool :=
  p.tag == none || p.tag == some "!"

/-- The kind of a node, `default` if it is left open. -/
def kind (p : Properties) (default : Tag) : Tag :=
  match p.tag with
  | none => default
  | some "!" => default
  | some name => .ofName name

/-- The kind of a text: plain texts and those with a lone `!` have the kind of their form. -/
def textKind (p : Properties) (text : String) (plain : Bool) : Tag :=
  p.kind (if (plain && p.tag == none) || p.tag == some "!" then .ofText text else .str)

def mark (p : Properties) (id : Nat) (tag : Tag) : Mark :=
  { id, tag, line := p.line, anchored := p.anchor.isSome }

end Properties

/-- The properties that stand here. An anchor may be used once in a document. -/
def properties (handles : Handles) (s : TokenStream) : Except Fault (Properties × TokenStream) := do
  let line := s.line
  let named (t : WrittenTag) (f : Fault) : Except Fault (Option String) :=
    match t.name? handles with
    | some name => .ok (some name)
    | none => .error f
  let (p, s) ←
    match s.head with
    | .anchor a =>
      match s.next.head with
      | .tag t => do
        let tag ← named t .malformed
        .ok (({ anchor := some a, tag, line } : Properties), s.next.next)
      | _ => .ok ({ anchor := some a, line }, s.next)
    | .tag t =>
      match s.next.head with
      | .anchor a => do
        let tag ← named t .malformed
        .ok ({ anchor := some a, tag, line }, s.next.next)
      | _ => do
        let tag ← named t s.next.fault
        .ok ({ tag, line }, s.next)
    | _ => .ok ({ line }, s)
  match p.anchor with
  | none => .ok (p, s)
  | some a => if (s.anchored? a).isSome then .error s.fault else .ok (p, s)

mutual

/-- The node that starts here. `block` allows blocks, `flat` a list that is not indented. -/
def nodeAt (handles : Handles) : Nat → Bool → Bool → TokenStream → Except Fault (Node × TokenStream)
  | 0, _, _, s => .error s.fault
  | fuel + 1, block, flat, s =>
    match s.head with
    | .alias name =>
      match s.anchored? name with
      | none => .error s.fault
      | some (.node n) => .ok (n, s.next)
      | some (.opened id line) => .ok (.cycle id line, { s.next with cyclic := true })
    | _ => do
      let (p, s) ← properties handles s
      let (id, s) := s.fresh
      let asList (read : TokenStream → Except Fault (List Node × TokenStream)) :
          Except Fault (Node × TokenStream) := do
        let (items, s) ← read (s.bindAnchor p.anchor (.opened id p.line))
        let node := Node.list (p.mark id (p.kind .list)) items
        .ok (node, s.bindAnchor p.anchor (.node node))
      let asMap (read : TokenStream → Except Fault (List (Node × Node) × TokenStream)) :
          Except Fault (Node × TokenStream) := do
        let (entries, s) ← read (s.bindAnchor p.anchor (.opened id p.line))
        let node := Node.map (p.mark id (p.kind .map)) entries
        .ok (node, s.bindAnchor p.anchor (.node node))
      let asText (text : String) (plain : Bool) (s : TokenStream) :
          Except Fault (Node × TokenStream) :=
        let node := Node.scalar (p.mark id (p.textKind text plain)) text
        .ok (node, s.bindAnchor p.anchor (.node node))
      match s.head, block, flat with
      | .item, _, true => asList (flatItems handles fuel)
      | .scalar text plain, _, _ => asText text plain s.next
      | .openList, _, _ => asList fun s => flowItems handles fuel true s.next
      | .openMap, _, _ => asMap fun s => flowEntries handles fuel true s.next
      | .sequenceStart, true, _ => asList fun s => blockItems handles fuel s.next
      | .mappingStart, true, _ => asMap fun s => blockEntries handles fuel s.next
      | _, _, _ =>
        if p.anchor.isSome || p.tag.isSome then asText "" p.isOpen s else .error s.fault

/-- The items of an indented list, with its end. -/
def blockItems (handles : Handles) : Nat → TokenStream → Except Fault (List Node × TokenStream)
  | 0, s => .error s.fault
  | fuel + 1, s =>
    match s.head with
    | .item => do
      let (node, s) ←
        match s.next.head with
        | .item => .ok (Node.empty s.line, s.next)
        | .blockEnd => .ok (Node.empty s.line, s.next)
        | _ => nodeAt handles fuel true false s.next
      let (nodes, s) ← blockItems handles fuel s
      .ok (node :: nodes, s)
    | .blockEnd => .ok ([], s.next)
    | _ => .error s.fault

/-- The items of a list that is not indented. -/
def flatItems (handles : Handles) : Nat → TokenStream → Except Fault (List Node × TokenStream)
  | 0, s => .error s.fault
  | fuel + 1, s =>
    match s.head with
    | .item => do
      let (node, s) ←
        match s.next.head with
        | .item => .ok (Node.empty s.line, s.next)
        | .key => .ok (Node.empty s.line, s.next)
        | .value => .ok (Node.empty s.line, s.next)
        | .blockEnd => .ok (Node.empty s.line, s.next)
        | _ => nodeAt handles fuel true false s.next
      let (nodes, s) ← flatItems handles fuel s
      .ok (node :: nodes, s)
    | _ => .ok ([], s)

/-- The node after a key mark or a colon of a block, which may be missing. -/
def blockPart (handles : Handles) : Nat → TokenStream → Except Fault (Node × TokenStream)
  | 0, s => .error s.fault
  | fuel + 1, s =>
    match s.next.head with
    | .key => .ok (Node.empty s.line, s.next)
    | .value => .ok (Node.empty s.line, s.next)
    | .blockEnd => .ok (Node.empty s.line, s.next)
    | _ => nodeAt handles fuel true true s.next

/-- The entries of an indented mapping, with its end. -/
def blockEntries (handles : Handles) : Nat → TokenStream →
    Except Fault (List (Node × Node) × TokenStream)
  | 0, s => .error s.fault
  | fuel + 1, s =>
    match s.head with
    | .key => do
      let (key, s) ← blockPart handles fuel s
      let (value, s) ←
        match s.head with
        | .value => blockPart handles fuel s
        | _ => .ok (Node.empty s.line, s)
      let (entries, s) ← blockEntries handles fuel s
      .ok ((key, value) :: entries, s)
    | .blockEnd => .ok ([], s.next)
    | _ => .error s.fault

/-- The node after a key mark or a colon in brackets, which may be missing before the tokens that
`close` names. -/
def flowPart (handles : Handles) : Nat → (TokenKind → Bool) → TokenStream →
    Except Fault (Node × TokenStream)
  | 0, _, s => .error s.fault
  | fuel + 1, close, s =>
    if close s.next.head then .ok (Node.empty s.line, s.next)
    else nodeAt handles fuel false false s.next

/-- A key and a value in brackets. -/
def flowEntry (handles : Handles) : Nat → TokenKind → TokenStream →
    Except Fault ((Node × Node) × TokenStream)
  | 0, _, s => .error s.fault
  | fuel + 1, close, s => do
    let ends (kind : TokenKind) : Bool := kind == .comma || kind == close
    let (key, s) ← flowPart handles fuel (fun kind => kind == .value || ends kind) s
    let (value, s) ←
      match s.head with
      | .value => flowPart handles fuel ends s
      | _ => .ok (Node.empty s.line, s)
    .ok ((key, value), s)

/-- The items of a list in brackets, with its end. An entry among them is a mapping of its own. -/
def flowItems (handles : Handles) : Nat → Bool → TokenStream →
    Except Fault (List Node × TokenStream)
  | 0, _, s => .error s.fault
  | fuel + 1, first, s =>
    if s.head == .closeList then .ok ([], s.next)
    else do
      let s ← if first then .ok s else s.expect .comma
      match s.head with
      | .closeList => .ok ([], s.next)
      | .key =>
        let line := s.line
        let (id, s) := s.fresh
        let (entry, s) ← flowEntry handles fuel .closeList s
        let (nodes, s) ← flowItems handles fuel false s
        .ok (Node.map { id, tag := .map, line } [entry] :: nodes, s)
      | _ =>
        let (node, s) ← nodeAt handles fuel false false s
        let (nodes, s) ← flowItems handles fuel false s
        .ok (node :: nodes, s)

/-- The entries of a mapping in brackets, with its end. -/
def flowEntries (handles : Handles) : Nat → Bool → TokenStream →
    Except Fault (List (Node × Node) × TokenStream)
  | 0, _, s => .error s.fault
  | fuel + 1, first, s =>
    if s.head == .closeMap then .ok ([], s.next)
    else do
      let s ← if first then .ok s else s.expect .comma
      match s.head with
      | .closeMap => .ok ([], s.next)
      | .key =>
        let (entry, s) ← flowEntry handles fuel .closeMap s
        let (entries, s) ← flowEntries handles fuel false s
        .ok (entry :: entries, s)
      | _ =>
        let (key, s) ← nodeAt handles fuel false false s
        let value := Node.empty s.line
        let (entries, s) ← flowEntries handles fuel false s
        .ok ((key, value) :: entries, s)

end

/-- The directives before a document: at most one version, of the first series, and handles of
distinct names. -/
def directives (version : Bool) (handles : Handles) : List Token → Option (Handles × List Token)
  | ⟨.directive (.version major), _⟩ :: ts =>
    if version || major != 1 then none else directives true handles ts
  | ⟨.directive (.tag handle front), _⟩ :: ts =>
    if handles.any fun h => h.1 == handle then none
    else directives version ((handle, front) :: handles) ts
  | ⟨.directive .reserved, _⟩ :: ts => directives version handles ts
  | ts => some (handles ++ defaultHandles, ts)

/-- Past the marks that end a document. -/
def skipEnds (ts : List Token) : List Token :=
  ts.dropWhile fun t => t.kind == .documentEnd

/-- Whether a token cannot start the content of a document. -/
def endsContent : TokenKind → Bool
  | .directive _ => true
  | .documentStart => true
  | .documentEnd => true
  | .streamEnd => true
  | _ => false

/-- The collections under anchors, each before those around it. -/
def TokenStream.collections (s : TokenStream) : List (Nat × Node) :=
  s.anchors.reverse.filterMap fun a =>
    match a.2 with
    | .node (.list m items) => some (m.id, .list m items)
    | .node (.map m entries) => some (m.id, .map m entries)
    | _ => none

namespace Document

/-- The document of a node, if nothing but marks of its end follow it. -/
def ofNode (n : Node) (s : TokenStream) : Except Fault (Option Document) :=
  match skipEnds s.tokens with
  | [⟨.streamEnd, _⟩] =>
    .ok (some { root := n, anchored := s.collections, size := s.count, cyclic := s.cyclic })
  | ts => .error { s with tokens := ts }.fault

/-- The document that starts with its content. -/
def ofContent (handles : Handles) (ts : List Token) : Except Fault (Option Document) := do
  let (node, s) ← nodeAt handles (4 * ts.length + 8) true false { tokens := ts }
  ofNode node s

/-- The document after its directives and its mark. -/
def ofExplicit (ts : List Token) : Except Fault (Option Document) :=
  let rest := ts.dropWhile fun t => match t.kind with
    | .directive _ => true
    | _ => false
  match directives false [] ts, rest with
  | some (handles, _), ⟨.documentStart, _⟩ :: t :: ts =>
    if endsContent t.kind then ofNode (.empty t.line) { tokens := t :: ts }
    else ofContent handles (t :: ts)
  | _, rest => .error (({ tokens := rest } : TokenStream).fault)

/-- The one document among the tokens; nothing if there is none. -/
def ofTokens (ts : List Token) : Except Fault (Option Document) :=
  match ts with
  | [⟨.streamEnd, _⟩] => .ok none
  | ⟨.directive _, _⟩ :: _ => ofExplicit ts
  | ⟨.documentStart, _⟩ :: _ => ofExplicit ts
  | ts => ofContent defaultHandles ts

end Document

end BoundaryLint.Yaml
