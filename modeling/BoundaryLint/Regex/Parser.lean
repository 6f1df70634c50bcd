import BoundaryLint.Regex.Error
import BoundaryLint.Regex.Token
import BoundaryLint.Regex.Width
import BoundaryLint.Text.CharName
import BoundaryLint.Text.Identifier

/-!
# Reading regular expressions

The reader goes over the tokens once and resolves modes on the way: a global mode can only stand at
the very start, so the modes of each leaf are known when it is read. Errors are reported at the
first token that shows them.
-/
namespace BoundaryLint.Regex

namespace Reader

/-- What is left to read, and what the groups read so far have declared. -/
structure State where
  rest : List Token
  pos : Nat := 0
  flags : Flags
  groupCount : Nat := 1
  names : List (String × Nat) := []
  widths : List (Nat × Width) := []
  behindFrom : Option Nat := none
  references : List (Nat × Nat) := []
  variableBehind : Bool := false
  farBehind : Bool := false
  deriving Repr

end Reader

/-- A reader of tokens. -/
abbrev Reader := StateT Reader.State (Except Error)

namespace Reader

def failAt {α : Type} (reason : Reason) (pos : Nat) : Reader α :=
  throw (.malformed reason pos)

/-- Fails `offset` characters before the next token. -/
def fail {α : Type} (reason : Reason) (offset : Nat := 0) : Reader α := do
  failAt reason ((← get).pos - offset)

def peek : Reader (Option Token) := do
  return (← get).rest.head?

def position : Reader Nat := do
  return (← get).pos

/-- Takes the next token. A backslash with nothing after it is refused as soon as it comes next. -/
def next : Reader (Option Token) := do
  let s ← get
  match s.rest with
  | [] => return none
  | t :: rest =>
    let pos := s.pos + t.width
    if rest.head? == some .dangling then failAt .danglingBackslash pos
    set { s with rest, pos }
    return some t

/-- Takes the character `c` if it comes next. -/
def accept (c : Char) : Reader Bool := do
  if (← peek) == some (.plain c) then
    let _ ← next
    return true
  return false

/-- Takes up to `n` characters that satisfy `p`. -/
def takeChars (p : Char → Bool) : Nat → Reader (List Char)
  | 0 => return []
  | n + 1 => do
    match ← peek with
    | some (.plain c) =>
      if p c then
        let _ ← next
        return c :: (← takeChars p n)
      else return []
    | _ => return []

/-- Takes all characters that satisfy `p`. -/
def takeAll (p : Char → Bool) : Reader (List Char) := do
  takeChars p (← get).rest.length

/-- The text up to `close`, which is taken too; `what` names the text when it is empty. -/
def takeUntil (close : Char) (what : String) : Nat → List Char → Reader (List Char)
  | 0, acc => return acc
  | fuel + 1, acc => do
    match ← next with
    | none =>
      if acc.isEmpty then fail (.missingName what)
      else fail (.unterminatedName close.toString) acc.length
    | some t =>
      if t == .plain close then
        if acc.isEmpty then fail (.missingName what) 1 else return acc
      else takeUntil close what fuel (acc ++ t.text)

def name (close : Char) (what : String) : Reader (List Char) := do
  takeUntil close what ((← get).rest.length + 1) []

def isHexDigit (c : Char) : Bool :=
  c.isDigit || ('a' ≤ c && c ≤ 'f') || ('A' ≤ c && c ≤ 'F')

def isOctalDigit (c : Char) : Bool :=
  '0' ≤ c && c ≤ '7'

def digitValue (c : Char) : Nat :=
  if c.isDigit then c.toNat - 0x30
  else if 'a' ≤ c && c ≤ 'f' then c.toNat - 0x61 + 10
  else c.toNat - 0x41 + 10

/-- The number that digits denote in a base. -/
def numeral (base : Nat) (ds : List Char) : Nat :=
  ds.foldl (fun n d => n * base + digitValue d) 0

/-- An escape by exactly `count` hexadecimal digits. -/
def hexEscape (letter : Char) (count : Nat) : Reader Nat := do
  let ds ← takeChars isHexDigit count
  let text := '\\' :: letter :: ds
  if ds.length != count then fail (.incompleteEscape (String.ofList text)) text.length
  let code := numeral 16 ds
  if 0x110000 ≤ code then fail (.badEscape (String.ofList text)) text.length
  return code

/-- An escape by the name of a character. -/
def namedEscape : Reader Nat := do
  if !(← accept '\x7b') then fail .missingBrace
  let n ← name '\x7d' "character name"
  match Text.charNamed? n with
  | some code => return code
  | none => fail (.undefinedCharacter (String.ofList n)) (n.length + 4)

/-- Codes of the escapes for control characters. -/
def controlEscape? : Char → Option Nat
  | 'a' => some 7
  | 'b' => some 8
  | 'f' => some 12
  | 'n' => some 10
  | 'r' => some 13
  | 't' => some 9
  | 'v' => some 11
  | '\\' => some 92
  | _ => none

/-- The category an escape stands for, and whether it is negated. -/
def category? : Char → Option (Category × Bool)
  | 'd' => some (.digit, false)
  | 'D' => some (.digit, true)
  | 's' => some (.space, false)
  | 'S' => some (.space, true)
  | 'w' => some (.word, false)
  | 'W' => some (.word, true)
  | _ => none

def isAscii (flags : Flags) : Bool :=
  flags.has 'a'

def caseMode (flags : Flags) : CaseMode :=
  if flags.has 'i' then (if flags.has 'a' then .ascii else .unicode) else .exact

/-- An escape whose code does not depend on where it stands. -/
def codeEscape? (c : Char) : Option (Reader Nat) :=
  match c with
  | 'x' => some (hexEscape 'x' 2)
  | 'u' => some (hexEscape 'u' 4)
  | 'U' => some (hexEscape 'U' 8)
  | 'N' => some namedEscape
  | _ => none

/-- An escape inside a class. -/
def classEscape (ascii : Bool) (c : Char) : Reader ClassItem := do
  match controlEscape? c with
  | some code => return .one code
  | none =>
  match category? c with
  | some (k, negated) => return .category k ascii negated
  | none =>
  match codeEscape? c with
  | some read => return .one (← read)
  | none =>
  if isOctalDigit c then
    let ds ← takeChars isOctalDigit 2
    let text := '\\' :: c :: ds
    let code := numeral 8 (c :: ds)
    if 0o377 < code then fail (.octalTooLarge (String.ofList text)) text.length
    return .one code
  else if c.isDigit || c.isAlpha then fail (.badEscape (String.ofList ['\\', c])) 2
  else return .one c.toNat

/-- The item that a token of a class begins. -/
def classToken (ascii : Bool) : Token → Reader ClassItem
  | .plain c => return .one c.toNat
  | .escaped c => classEscape ascii c
  | .dangling => return .one 92

/-- The items of a class up to its closing bracket, which is taken too. A closing bracket that
comes first is an item. -/
def classItems (ascii : Bool) (start : Nat) : Nat → List ClassItem → Reader (List ClassItem)
  | 0, _ => failAt .unterminatedSet start
  | fuel + 1, acc => do
    match ← next with
    | none => failAt .unterminatedSet start
    | some t =>
      if t == .plain ']' && !acc.isEmpty then return acc
      let lo ← classToken ascii t
      if ← accept '-' then
        match ← next with
        | none => failAt .unterminatedSet start
        | some u =>
          if u == .plain ']' then return acc ++ [lo, .one 0x2d]
          let hi ← classToken ascii u
          let bad : Reader ClassItem :=
            fail (.badRange (String.ofList t.text) (String.ofList u.text)) (t.width + 1 + u.width)
          let item ← match lo, hi with
            | .one m, .one n => if n < m then bad else pure (.range m n)
            | _, _ => bad
          classItems ascii start fuel (acc ++ [item])
      else classItems ascii start fuel (acc ++ [lo])

/-- A class, whose opening bracket at `start` has been taken. -/
def charset (ascii : Bool) (start : Nat) : Reader Charset := do
  let negated ← accept '^'
  let items ← classItems ascii start ((← get).rest.length + 1) []
  return { items, negated }

/-- A reference to a group must not point into an open group or into the same look-behind. -/
def checkBehind (index : Nat) : Reader Unit := do
  let s ← get
  match s.behindFrom with
  | none => return ()
  | some first =>
    if (s.widths.lookup index).isNone then fail .openGroupReference
    if first ≤ index then fail .lookbehindGroupReference

def backReference (flags : Flags) (ds : List Char) : Reader Node := do
  let index := numeral 10 ds
  let s ← get
  if index < s.groupCount then
    if (s.widths.lookup index).isNone then fail .openGroupReference (ds.length + 1)
    checkBehind index
    return .backref index (caseMode flags)
  fail (.invalidGroupReference index) ds.length

/-- An octal escape of three digits, or a reference to a group. -/
def digitEscape (flags : Flags) (c : Char) : Reader Node := do
  match ← takeChars Char.isDigit 1 with
  | [d] =>
    if isOctalDigit c && isOctalDigit d then
      match ← takeChars isOctalDigit 1 with
      | [e] =>
        let text := ['\\', c, d, e]
        let code := numeral 8 [c, d, e]
        if 0o377 < code then fail (.octalTooLarge (String.ofList text)) 4
        return .char code (caseMode flags)
      | _ => backReference flags [c, d]
    else backReference flags [c, d]
  | _ => backReference flags [c]

def anchorEscape? (flags : Flags) : Char → Option Anchor
  | 'A' => some .textStart
  | 'Z' => some .textEnd
  | 'b' => some (.boundary (isAscii flags) false)
  | 'B' => some (.boundary (isAscii flags) true)
  | _ => none

/-- An escape outside a class. -/
def escape (flags : Flags) (c : Char) : Reader Node := do
  match anchorEscape? flags c with
  | some a => return .anchor a
  | none =>
  match category? c with
  | some (k, negated) => return .set ⟨[.category k (isAscii flags) negated], false⟩ (caseMode flags)
  | none =>
  match controlEscape? c with
  | some code => return .char code (caseMode flags)
  | none =>
  match codeEscape? c with
  | some read => return .char (← read) (caseMode flags)
  | none =>
  if c == '0' then
    let ds ← takeChars isOctalDigit 2
    return .char (numeral 8 ds) (caseMode flags)
  else if c.isDigit then digitEscape flags c
  else if c.isAlpha then fail (.badEscape (String.ofList ['\\', c])) 2
  else return .char c.toNat (caseMode flags)

/-- The bounds after an opening brace, or nothing if the brace is a plain character. -/
def braceBounds : Reader (Option (List Char × List Char)) := do
  if (← peek) == some (.plain '\x7d') then return none
  let lo ← takeAll Char.isDigit
  let hi ← if ← accept ',' then takeAll Char.isDigit else pure lo
  if ← accept '\x7d' then return some (lo, hi) else return none

/-- Counts from this one on are refused. -/
def repetitionLimit : Nat := 4294967295

/-- The least and the greatest count that a repetition at `start` asks for; nothing if the
character that opens it is plain. -/
def bounds (start : Nat) (c : Char) : Reader (Option (Nat × Option Nat)) := do
  match c with
  | '?' => return some (0, some 1)
  | '*' => return some (0, none)
  | '+' => return some (1, none)
  | _ =>
    let before ← get
    match ← braceBounds with
    | none =>
      set before
      return none
    | some (lo, hi) =>
      if Number.digitLimit < lo.length then throw (.tooManyDigits lo.length)
      let least := numeral 10 lo
      if repetitionLimit ≤ least then throw .repetitionTooLarge
      if hi.isEmpty then return some (least, none)
      if Number.digitLimit < hi.length then throw (.tooManyDigits hi.length)
      let most := numeral 10 hi
      if repetitionLimit ≤ most then throw .repetitionTooLarge
      if most < least then failAt .minAboveMax start
      return some (least, some most)

def greed : Reader Greed := do
  if ← accept '?' then return .lazy
  if ← accept '+' then return .possessive
  return .greedy

/-- Repeats the last item; `acc` holds the items in reverse. -/
def repetition (flags : Flags) (c : Char) (acc : List Node) : Reader (List Node) := do
  let start ← position
  match ← bounds start c with
  | none => return .char c.toNat (caseMode flags) :: acc
  | some (lo, hi) =>
    match acc with
    | [] => failAt .nothingToRepeat (start - 1)
    | .anchor _ :: _ => failAt .nothingToRepeat (start - 1)
    | .loop _ _ _ _ :: _ => failAt .multipleRepeat (start - 1)
    | item :: items => return .loop lo hi (← greed) item :: items

/-- Drops the rest of a comment that ends with `close`; false if the end comes first. -/
def skipComment (close : Char) : Nat → Reader Bool
  | 0 => return false
  | fuel + 1 => do
    match ← next with
    | none => return false
    | some t => if t == .plain close then return true else skipComment close fuel

/-- Letters of an inline group from `t` on, up to a token that is none. -/
def flagsOn : Nat → Token → Flags → Reader (Flags × Token)
  | 0, t, on => return (on, t)
  | fuel + 1, t, on => do
    match t with
    | .plain c =>
      if c == 'L' then fail .localeFlag
      let on := on.add c
      if Flags.isClassChoice c && on.letters.any (fun d => Flags.isClassChoice d && d != c) then
        fail .conflictingFlags
      match ← next with
      | none => fail .missingFlagEnd
      | some u =>
        if u == .plain ')' || u == .plain '-' || u == .plain ':' then return (on, u)
        match u with
        | .plain d =>
          if Flags.known.contains d then flagsOn fuel u on
          else fail (if Text.isLetter d then .unknownFlag else .missingFlagEnd) 1
        | _ => fail .missingFlagEnd u.width
    | _ => return (on, t)

/-- Letters that are switched off, from `t` on and up to a colon. -/
def flagsOff : Nat → Char → Flags → Reader Flags
  | 0, _, off => return off
  | fuel + 1, c, off => do
    if Flags.isClassChoice c then fail .classFlagOff
    let off := off.add c
    match ← next with
    | none => fail .missingColon
    | some (.plain ':') => return off
    | some (.plain d) =>
      if Flags.known.contains d then flagsOff fuel d off
      else fail (if Text.isLetter d then .unknownFlag else .missingColon) 1
    | some u => fail .missingColon u.width

/-- The modes that an inline group switches on and off; nothing if they are global. -/
def inlineFlags (t : Token) : Reader (Option (Flags × Flags)) := do
  let fuel := (← get).rest.length + 1
  let (on, close) ← if t == .plain '-' then pure (Flags.none, t) else flagsOn fuel t .none
  if close == .plain ')' then
    modify fun s => { s with flags := s.flags.union on }
    return none
  if on.has 't' then fail .globalFlagOn 1
  let off ← if close == .plain '-' then
      match ← next with
      | none => fail .missingFlag
      | some (.plain d) =>
        if Flags.known.contains d then flagsOff fuel d .none
        else fail (if Text.isLetter d then .unknownFlag else .missingFlag) 1
      | some u => fail .missingFlag u.width
    else pure .none
  if off.has 't' then fail .globalFlagOff 1
  if on.meets off then fail .flagOnAndOff 1
  return some (on, off)

/-- Opens a group, which gets the next number. -/
def openGroup (named : Option (List Char)) : Reader Nat := do
  let s ← get
  let index := s.groupCount
  match named with
  | none => set { s with groupCount := index + 1 }
  | some n =>
    let key := String.ofList n
    match s.names.lookup key with
    | some was => fail (.redefinedGroup key index was) (n.length + 1)
    | none => set { s with groupCount := index + 1, names := (key, index) :: s.names }
  return index

def closeGroup (index : Nat) (body : Node) : Reader Unit :=
  modify fun s => { s with widths := (index, body.width s.widths) :: s.widths }

def groupName (close : Char) : Reader (List Char) := do
  let n ← name close "group name"
  if !Text.isIdentifier n then fail (.badGroupName (String.ofList n)) (n.length + 1)
  return n

/-- Group numbers from this one on do not exist. -/
def groupLimit : Nat := 1073741823

/-- The group that a conditional asks about. -/
def conditionGroup : Reader Nat := do
  let n ← name ')' "group name"
  let key := String.ofList n
  let index ←
    if Text.isIdentifier n then
      match (← get).names.lookup key with
      | some index => pure index
      | none => fail (.unknownGroupName key) (n.length + 1)
    else
      match Number.integer? 10 n with
      | none => fail (.badGroupName key) (n.length + 1)
      | some number => do
        if number < 0 then fail (.badGroupName key) (n.length + 1)
        let index := number.toNat
        if index == 0 then fail .badGroupNumber (n.length + 1)
        if groupLimit ≤ index then fail (.invalidGroupReference index) (n.length + 1)
        modify fun s =>
          if (s.references.lookup index).isSome then s
          else { s with references := s.references ++ [(index, s.pos - n.length - 1)] }
        pure index
  checkBehind index
  return index

/-- A reference to a group by its name. -/
def namedReference (flags : Flags) : Reader Node := do
  let n ← groupName ')'
  match (← get).names.lookup (String.ofList n) with
  | none => fail (.unknownGroupName (String.ofList n)) (n.length + 1)
  | some index =>
    if ((← get).widths.lookup index).isNone then fail .openGroupReference (n.length + 1)
    checkBehind index
    return .backref index (caseMode flags)

/-- The closing parenthesis of the group that was opened at `start`. -/
def close (start : Nat) : Reader Unit := do
  if !(← accept ')') then failAt .unterminatedGroup start

def lookbehind (negated : Bool) (body : Node) : Reader Node := do
  let w := body.width (← get).widths
  modify fun s =>
    { s with
      variableBehind := s.variableBehind || w.lo != w.hi
      farBehind := s.farBehind || 4294967295 < w.lo }
  return .behind negated w.lo body

/-- The items in reverse as one expression. -/
def sequence (acc : List Node) : Node :=
  match acc with
  | [] => .empty
  | last :: items => items.foldl (fun rest n => .seq n rest) last

def isPatternBlank (c : Char) : Bool :=
  c == ' ' || (9 ≤ c.toNat && c.toNat ≤ 13)

/-- What follows the opening of a group. -/
inductive Opening where
  | ignored
  | done (n : Node)
  | body (capture : Bool) (named : Option (List Char)) (atomic : Bool) (flags : Flags)
  | around (ahead negated : Bool)
  | condition

/-- Reads what stands between the parenthesis at `start` and the body of its group; `atStart` says
whether global modes may stand here. -/
def opening (start : Nat) (flags : Flags) (atStart : Bool) : Reader Opening := do
  if !(← accept '?') then return .body true none false flags
  match ← next with
  | none => fail .unexpectedEnd
  | some (.plain 'P') =>
    if ← accept '<' then return .body true (some (← groupName '>')) false flags
    if ← accept '=' then return .done (← namedReference flags)
    match ← next with
    | none => fail .unexpectedEnd
    | some t => fail (.unknownExtension (String.ofList ('P' :: t.text))) (t.width + 2)
  | some (.plain ':') => return .body false none false flags
  | some (.plain '#') =>
    if ← skipComment ')' ((← get).rest.length + 1) then return .ignored
    else failAt .unterminatedComment start
  | some (.plain '=') => return .around true false
  | some (.plain '!') => return .around true true
  | some (.plain '<') =>
    match ← next with
    | none => fail .unexpectedEnd
    | some (.plain '=') => return .around false false
    | some (.plain '!') => return .around false true
    | some t => fail (.unknownExtension (String.ofList ('<' :: t.text))) (t.width + 2)
  | some (.plain '(') => return .condition
  | some (.plain '>') => return .body false none true flags
  | some t =>
    let isFlag := match t with
      | .plain c => c == '-' || Flags.known.contains c
      | _ => false
    if !isFlag then fail (.unknownExtension (String.ofList t.text)) (t.width + 1)
    match ← inlineFlags t with
    | none => if atStart then return .ignored else failAt .lateGlobalFlags start
    | some (on, off) => return .body false none false (flags.within on off)

mutual

/-- Alternatives. The modes are the given ones, or the global ones at the top. -/
def alternatives : Nat → Option Flags → Bool → Reader Node
  | 0, _, _ => return .empty
  | fuel + 1, flags, first => do
    let a := sequence (← items fuel flags first [])
    if ← accept '|' then return .alt a (← alternatives fuel flags false)
    else return a

/-- The items of one alternative, in reverse and in front of `acc`. -/
def items : Nat → Option Flags → Bool → List Node → Reader (List Node)
  | 0, _, _, acc => return acc
  | fuel + 1, scope, first, acc => do
    let flags := scope.getD (← get).flags
    match ← peek with
    | none => return acc
    | some (.plain '|') => return acc
    | some (.plain ')') => return acc
    | some t =>
      let _ ← next
      match t with
      | .escaped c => items fuel scope first ((← escape flags c) :: acc)
      | .dangling => return acc
      | .plain c =>
        if flags.has 'x' && isPatternBlank c then items fuel scope first acc
        else if flags.has 'x' && c == '#' then
          let _ ← skipComment '\n' ((← get).rest.length + 1)
          items fuel scope first acc
        else
          match c with
          | '[' =>
            let s ← charset (isAscii flags) ((← position) - 1)
            items fuel scope first (.set s (caseMode flags) :: acc)
          | '.' => items fuel scope first (.any (flags.has 's') :: acc)
          | '^' =>
            items fuel scope first
              (.anchor (if flags.has 'm' then .lineStart else .textStart) :: acc)
          | '$' =>
            items fuel scope first
              (.anchor (if flags.has 'm' then .lineEnd else .finalEnd) :: acc)
          | '(' =>
            match ← groupAt fuel flags (first && acc.isEmpty) ((← position) - 1) with
            | none => items fuel scope first acc
            | some n => items fuel scope first (n :: acc)
          | _ =>
            if c == '*' || c == '+' || c == '?' || c == '\x7b' then
              items fuel scope first (← repetition flags c acc)
            else items fuel scope first (.char c.toNat (caseMode flags) :: acc)

/-- The group whose parenthesis at `start` has been taken; nothing for comments and modes. -/
def groupAt : Nat → Flags → Bool → Nat → Reader (Option Node)
  | 0, _, _, _ => return none
  | fuel + 1, flags, atStart, start => do
    match ← opening start flags atStart with
    | .ignored => return none
    | .done n => return some n
    | .around true negated =>
      let body ← alternatives fuel (some flags) false
      close start
      return some (.ahead negated body)
    | .around false negated =>
      let outer := (← get).behindFrom
      if outer.isNone then modify fun s => { s with behindFrom := some s.groupCount }
      let body ← alternatives fuel (some flags) false
      modify fun s => { s with behindFrom := outer }
      close start
      return some (← lookbehind negated body)
    | .condition =>
      let index ← conditionGroup
      let yes := sequence (← items fuel (some flags) false [])
      let no ←
        if ← accept '|' then
          let no := sequence (← items fuel (some flags) false [])
          if (← peek) == some (.plain '|') then fail .tooManyBranches
          pure no
        else pure .empty
      close start
      return some (.ifGroup index yes no)
    | .body capture named atomic inner =>
      let index ← if capture then some <$> openGroup named else pure none
      let body ← alternatives fuel (some inner) false
      close start
      match index with
      | some i =>
        closeGroup i body
        return some (.capture i body)
      | none => return some (if atomic then .atomic body else .group body)

end

end Reader

/-- The first repetition of an expression, by its kind. -/
def Node.firstLoop? : Node → Option Greed
  | .loop _ _ g _ => some g
  | .seq a b => a.firstLoop?.or b.firstLoop?
  | .alt a b => a.firstLoop?.or b.firstLoop?
  | .group body => body.firstLoop?
  | .capture _ body => body.firstLoop?
  | .atomic body => body.firstLoop?
  | .ifGroup _ yes no => yes.firstLoop?.or no.firstLoop?
  | .ahead _ body => body.firstLoop?
  | .behind _ _ body => body.firstLoop?
  | _ => none

def Greed.operatorName : Greed → String
  | .greedy => "MAX_REPEAT"
  | .lazy => "MIN_REPEAT"
  | .possessive => "POSSESSIVE_REPEAT"

/-- Reads a regular expression under the given modes. -/
def Pattern.parse (source : List Char) (flags : Flags) : Except Error Pattern := do
  let tokens := Token.ofChars source
  if tokens.head? == some .dangling then throw (.malformed .danglingBackslash 0)
  let (root, s) ← (Reader.alternatives (2 * tokens.length + 2) none true).run { rest := tokens, flags }
  if s.flags.has 'a' && s.flags.has 'u' then throw .classChoiceConflict
  if !s.rest.isEmpty then throw (.malformed .unbalancedParenthesis s.pos)
  match s.references.find? fun r => s.groupCount ≤ r.1 with
  | some (index, pos) => throw (.malformed (.invalidGroupReference index) pos)
  | none =>
  if s.flags.has 't' then
    match root.firstLoop? with
    | some g => throw (.forbiddenRepetition g.operatorName)
    | none => pure ()
  if s.farBehind then throw .farLookbehind
  if s.variableBehind then throw .variableLookbehind
  return { source, flags := s.flags, root }

end BoundaryLint.Regex
