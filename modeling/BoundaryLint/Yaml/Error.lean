import BoundaryLint.Value.Printer
import BoundaryLint.Yaml.Number

/-!
# Why a document has no value
-/
namespace BoundaryLint.Yaml

/-- Why a document has no value. -/
inductive Error where
  /-- The bytes are no text. -/
  | notText
  /-- The document is not well formed, with what the reader says of it, if anything. -/
  | invalid (problem : Option String)
  /-- An escape gives a number beyond the code points. -/
  | beyondCodes (code : Nat)
  | duplicateKey (key : Value) (line : Nat)
  | notAKey (f : Value.NotAKey)
  | number (f : NumberFault)
  | truth (word : String)
  | timestamp (reason : String)
  /-- A text with the tag of a time has not the form of one. -/
  | notATime
  /-- A mapping with the tag of a time, even if it has a text. -/
  | mappingAsTime
  /-- A text with the tag of a mapping. -/
  | textAsMapping
  /-- A list with the tag of a mapping; its first item is of a form. -/
  | listAsMapping (form : String)
  /-- The steps of the reader do not suffice, because the text of a mapping is that of the mapping
  itself. -/
  | tooDeep
  /-- The message would show an integer of too many digits. -/
  | notShowable
  deriving Repr

namespace Error

def numberMessage : NumberFault → String
  | .empty => "string index out of range"
  | .notInteger base s =>
    s!"invalid literal for int() with base {base}: " ++
      String.ofList ((Text.quoted s).toList.take 200)
  | .tooLong digits => Number.limitMessage (some digits)
  | .notFloat s => "could not convert string to float: " ++ Text.quoted s
  | .beyondDoubles => "int too large to convert to float"

/-- What is said of an error, `none` if it is left open. -/
def message? : Error → Option String
  | .notText => none
  | .invalid problem => problem
  | .beyondCodes code =>
    some (if code < Nat.pow 2 31 then "chr() arg not in range(0x110000)"
      else "Python int too large to convert to C int")
  | .duplicateKey key line => some ("Duplicate key '" ++ key.plain ++ s!"' (line {line + 1})")
  | .notAKey f => some f.message
  | .number f => some (numberMessage f)
  | .truth word => some (Text.quoted word)
  | .timestamp reason => some reason
  | .notATime => some "'NoneType' object has no attribute 'groupdict'"
  | .mappingAsTime => some "expected string or bytes-like object, got 'list'"
  | .textAsMapping => some "not enough values to unpack (expected 2, got 1)"
  | .listAsMapping form => some ("cannot unpack non-iterable " ++ form ++ " object")
  | .tooDeep => some "maximum recursion depth exceeded"
  | .notShowable => some (Number.limitMessage none)

/-- Whether an error is raised past those who report a refused configuration. -/
def escapes : Error → Bool
  | .invalid _ => false
  | .duplicateKey _ _ => false
  | _ => true

end Error

end BoundaryLint.Yaml
