import BoundaryLint.Config.Error
import BoundaryLint.Rule.Registry
import BoundaryLint.Scope.Resolver

/-!
# Reading configuration data

Data is checked from the outside in and from the front to the back, and the first fault is
reported. A configuration that is accepted has numbered blocks with distinct names, and all its rule
entries are registered.
-/
namespace BoundaryLint

/-- A checked configuration: its blocks and what is ignored altogether. -/
structure Config where
  version : Int
  blocks : List Block
  ignores : GlobSet
  deriving Repr

namespace Config

def resolver (c : Config) : Resolver :=
  .ofBlocks c.blocks c.ignores

def ruleCount (c : Config) : Nat :=
  (c.blocks.flatMap (·.rules)).length

/-- A list of globs; a single text stands for a list of one. -/
def readGlobs (required : Bool) (v : Value) : Except GlobsFault GlobSet :=
  let read := fun vs : List Value =>
    if required && vs.isEmpty then .error .notList
    else
      match vs.find? fun v => match v with
          | .str _ => false
          | _ => true with
      | some v => .error (.notText v)
      | none =>
        match GlobSet.ofValues vs with
        | .ok s => .ok s
        | .error e => .error (.glob e)
  match v with
  | .str s => read [.str s]
  | .list _ vs => read vs
  | .null => if required then .error .notList else read []
  | _ => .error .notList

/-- A severity: by name, by number, or the truth value that a bare `off` is read as. -/
def readSeverity : Value → Except SeverityFault Severity
  | .bool b => if b then .error .notSwitch else .ok .off
  | .int n =>
    if n == 0 then .ok .off
    else if n == 1 then .ok .warn
    else if n == 2 then .ok .error
    else .error (.number n)
  | v =>
    match v.plain with
    | "error" => .ok .error
    | "warn" => .ok .warn
    | "off" => .ok .off
    | _ => .error (.name v)

/-- The severity and the options of a setting. -/
def readSetting (setting : Value) : Except SettingFault (Severity × List Value) :=
  match setting with
  | .list _ [] => .error .emptyList
  | .list _ (v :: options) => ((readSeverity v).mapError .severity).map fun s => (s, options)
  | v => ((readSeverity v).mapError .severity).map fun s => (s, [])

/-- The entry for a rule. Options are checked even if the rule is off. -/
def readEntry (registry : Registry) (index : Nat) (block ruleId : String) (setting : Value) :
    Except SettingFault Entry := do
  match registry.get? ruleId with
  | none => .error (.unknownRule registry.ids)
  | some rule =>
    let (severity, raw) ← readSetting setting
    let options ←
      if raw.isEmpty && severity == .off then pure .none
      else (rule.readOptions raw).mapError .options
    return { ruleId, severity, options, blockIndex := index, blockName := block }

/-- The keys that a block may have. -/
def blockKeys : List String := ["name", "files", "ignores", "rules"]

/-- The keys that a block may not have. -/
def unknownKeys (entries : List (Value × Value)) : List Value :=
  (entries.map (·.1)).filter fun key => !blockKeys.any fun k => key.sameKey (.str k)

/-- The name of a block; it has a default that counts blocks from zero. -/
def readName (index : Nat) (entries : List (Value × Value)) : Except Error String :=
  match Value.find? entries "name" with
  | none => .ok s!"block-{index}"
  | some (.str s) => if Text.isBlankText s then .error (.blockWithoutName index) else .ok s
  | some _ => .error (.blockWithoutName index)

def readBlock (registry : Registry) (index : Nat) (data : Value) : Except Error Block := do
  match data with
  | .map _ entries =>
    let name ← readName index entries
    match unknownKeys entries with
    | k :: ks => .error (.unknownKeys name (k :: ks))
    | [] =>
      let field := fun key => (Value.find? entries key).getD .null
      let files ← (readGlobs true (field "files")).mapError (.files name)
      let ignores ← (readGlobs false (field "ignores")).mapError (.blockIgnores name)
      match Value.find? entries "rules" with
      | none => return { index, name, files, ignores, rules := [] }
      | some (.map _ settings) =>
        let rules ← settings.mapM fun (key, setting) =>
          (readEntry registry index name key.plain setting).mapError (.setting name key)
        return { index, name, files, ignores, rules }
      | some _ => .error (.rulesNotMapping name)
  | _ => .error (.blockNotMapping index)

/-- Blocks from index `index` on; no name may be one of `names` or come twice. -/
def readBlocks (registry : Registry) (index : Nat) (names : List String) :
    List Value → Except Error (List Block)
  | [] => .ok []
  | v :: vs => do
    let b ← readBlock registry index v
    if names.contains b.name then .error (.duplicateBlock b.name)
    else return b :: (← readBlocks registry (index + 1) (b.name :: names) vs)

/-- The only version that is supported. -/
def supportedVersion : Value := .int 1

def readVersion (entries : List (Value × Value)) : Except Error Int :=
  match (Value.find? entries "version").getD .null with
  | .null => .error .missingVersion
  | v =>
    match v.asMember with
    | .error f => .error (.versionNotAKey f)
    | .ok v => if v.sameKey supportedVersion then .ok 1 else .error (.unsupportedVersion v)

/-- The ignores that the data gives: nothing, one glob or a list of globs. -/
def givenIgnores : Option Value → Option (List Value)
  | none => some []
  | some (.str s) => some [.str s]
  | some (.list _ vs) => some vs
  | some _ => none

/-- The globs that are ignored altogether: the default ones and those that the data gives. -/
def readIgnores (entries : List (Value × Value)) : Except Error GlobSet :=
  match givenIgnores (Value.find? entries "ignores") with
  | none => .error .ignoresNotList
  | some vs =>
    (readGlobs true (.ofList (Resolver.defaultIgnores.map .str ++ vs))).mapError .ignores

/-- Reads configuration data up to the first fault. -/
def read (registry : Registry) (data : Value) : Except Error Config := do
  match data with
  | .map _ entries =>
    let version ← readVersion entries
    let ignores ← readIgnores entries
    match Value.find? entries "blocks" with
    | none => return { version, blocks := [], ignores }
    | some (.list _ vs) => return { version, blocks := ← readBlocks registry 0 [] vs, ignores }
    | some _ => .error .blocksNotList
  | _ => .error .notMapping

/-- Reads configuration data under a registry of rules. -/
def ofValue (registry : Registry) (data : Value) : Except Error Config :=
  (read registry data).mapError Error.reported

end Config

end BoundaryLint
