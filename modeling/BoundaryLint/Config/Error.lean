import BoundaryLint.Glob.Error
import BoundaryLint.Rule.Basic

/-!
# Why configuration data is refused
-/
namespace BoundaryLint.Config

/-- Why a value is no severity. -/
inductive SeverityFault where
  | notSwitch
  | number (n : Int)
  | name (v : Value)
  deriving Repr

def SeverityFault.message : SeverityFault → String
  | .notSwitch => "invalid severity True"
  | .number n => s!"invalid severity {n}, must be 0, 1 or 2"
  | .name v => "invalid severity '" ++ v.plain ++ "', must be one of ['error', 'off', 'warn']"

/-- The values that a message shows. -/
def SeverityFault.values : SeverityFault → List Value
  | .notSwitch => []
  | .number n => [.int n]
  | .name v => [v]

/-- Why the setting of a rule is refused. -/
inductive SettingFault where
  | unknownRule (registered : List String)
  | emptyList
  | severity (f : SeverityFault)
  | options (f : OptionFault)
  deriving Repr

def SettingFault.message (context : String) : SettingFault → String
  | .unknownRule ids =>
    context ++ ": unknown rule id (registered: " ++ ", ".intercalate ids ++ ")"
  | .emptyList => context ++ ": rule setting list must start with a severity"
  | .severity f => context ++ ": " ++ f.message
  | .options f => f.message context

/-- The values that a message shows. -/
def SettingFault.values : SettingFault → List Value
  | .severity f => f.values
  | _ => []

/-- Why a list of globs is refused. -/
inductive GlobsFault where
  | notList
  | notText (v : Value)
  | glob (e : Glob.Error)
  deriving Repr

def GlobsFault.message (context : String) : GlobsFault → String
  | .notList => context ++ " must be a non-empty list of glob patterns"
  | .notText v => context ++ ": glob patterns must be strings, got " ++ v.shown
  | .glob e => e.message

/-- The values that a message shows. -/
def GlobsFault.values : GlobsFault → List Value
  | .notText v => [v]
  | _ => []

/-- Why configuration data is refused. -/
inductive Error where
  | notMapping
  | missingVersion
  | versionNotAKey (f : Value.NotAKey)
  | unsupportedVersion (v : Value)
  | ignoresNotList
  | ignores (f : GlobsFault)
  | blocksNotList
  | blockNotMapping (index : Nat)
  | blockWithoutName (index : Nat)
  | unknownKeys (block : String) (keys : List Value)
  | files (block : String) (f : GlobsFault)
  | blockIgnores (block : String) (f : GlobsFault)
  | rulesNotMapping (block : String)
  | setting (block : String) (rule : Value) (f : SettingFault)
  | duplicateBlock (name : String)
  /-- A message would show an integer of too many digits. -/
  | notShowable
  deriving Repr

/-- Where the setting of a rule stands. -/
def settingContext (block : String) (rule : Value) : String :=
  "Block '" ++ block ++ "' rule '" ++ rule.plain ++ "'"

/-- The texts of keys in ascending order. -/
def keyTexts (keys : List Value) : List String :=
  (keys.map Value.plain).mergeSort fun a b => !decide (b < a)

def Error.message : Error → String
  | .notMapping => "Configuration must be a mapping"
  | .missingVersion => "Configuration: missing required 'version' field"
  | .versionNotAKey f => f.message
  | .unsupportedVersion v =>
    "Configuration: unsupported version " ++ v.plain ++ ", expected one of [1]"
  | .ignoresNotList => "Configuration: 'ignores' must be a list"
  | .ignores f => f.message "Configuration: 'ignores'"
  | .blocksNotList => "Configuration: 'blocks' must be a list"
  | .blockNotMapping i => s!"Block at index {i} must be a mapping"
  | .blockWithoutName i => s!"Block at index {i}: 'name' must be a non-empty string"
  | .unknownKeys b keys =>
    "Block '" ++ b ++ "': unknown keys " ++ (Value.ofList ((keyTexts keys).map .str)).shown
  | .files b f => f.message ("Block '" ++ b ++ "': 'files'")
  | .blockIgnores b f => f.message ("Block '" ++ b ++ "': 'ignores'")
  | .rulesNotMapping b =>
    "Block '" ++ b ++ "': 'rules' must be a mapping of rule id to severity"
  | .setting b r f => f.message (settingContext b r)
  | .duplicateBlock name => "Configuration: duplicate block name '" ++ name ++ "'"
  | .notShowable => Number.limitMessage none

/-- The values that a message shows. -/
def Error.values : Error → List Value
  | .unsupportedVersion v => [v]
  | .ignores f => f.values
  | .unknownKeys _ keys => keys
  | .files _ f => f.values
  | .blockIgnores _ f => f.values
  | .setting _ rule f => rule :: f.values
  | _ => []

/-- The error that is reported: one whose message cannot be shown gives way to one that says so. -/
def Error.reported (e : Error) : Error :=
  if e.values.all Value.isShowable then e else .notShowable

/-- Whether an error is raised past those who report a refused configuration. -/
def Error.escapes : Error → Bool
  | .versionNotAKey _ => true
  | .notShowable => true
  | .setting _ _ (.options f) => f.escapes
  | _ => false

end BoundaryLint.Config
