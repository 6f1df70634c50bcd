import BoundaryLint.Yaml.Timestamp

/-!
# The kinds of nodes

A node has the kind that its tag names. A plain text without a tag has the kind whose form it has,
so that `1` is an integer, `off` a truth value and `~` nothing.
-/
namespace BoundaryLint.Yaml

/-- The kind of a node. -/
inductive Tag where
  | null
  | bool
  | int
  | float
  | str
  | timestamp
  | binary
  | list
  /-- A list of entries, of which each is a mapping of one. -/
  | entries
  | set
  | map
  /-- The kind of the key `<<`. It has no value. -/
  | merge
  /-- The kind of the key `=`. It has no value. -/
  | value
  /-- A kind that is not known. -/
  | unknown
  deriving DecidableEq, Repr

namespace Tag

/-- What the names of the common kinds start with. -/
def commonFront : String := "tag:yaml.org,2002:"

/-- The kind that a full name stands for. -/
def ofName (name : String) : Tag :=
  let is (kind : String) : Bool := name == commonFront ++ kind
  if is "null" then .null
  else if is "bool" then .bool
  else if is "int" then .int
  else if is "float" then .float
  else if is "str" then .str
  else if is "timestamp" then .timestamp
  else if is "binary" then .binary
  else if is "seq" then .list
  else if is "omap" || is "pairs" then .entries
  else if is "set" then .set
  else if is "map" then .map
  else if is "merge" then .merge
  else if is "value" then .value
  else .unknown

/-- The spellings of the truth values, true ones first. -/
def trueWords : List String :=
  ["yes", "Yes", "YES", "true", "True", "TRUE", "on", "On", "ON"]

def falseWords : List String :=
  ["no", "No", "NO", "false", "False", "FALSE", "off", "Off", "OFF"]

def isDigit (c : Char) : Bool :=
  '0' ≤ c && c ≤ '9'

/-- A digit or the underscore that may stand between digits. -/
def isSpacedDigit (c : Char) : Bool :=
  isDigit c || c == '_'

/-- The characters after a sign. -/
def unsigned : List Char → List Char
  | '+' :: cs => cs
  | '-' :: cs => cs
  | cs => cs

/-- Parts of one or two digits below sixty, each after a colon; `rest` says what may follow. -/
def isSixties (rest : List Char → Bool) : List Char → Bool
  | ':' :: a :: b :: cs =>
    (isDigit a && a ≤ '5' && isDigit b && (rest cs || isSixties rest cs)) ||
      (isDigit a && (rest (b :: cs) || isSixties rest (b :: cs)))
  | [':', a] => isDigit a && rest []
  | _ => false

def isIntForm (cs : List Char) : Bool :=
  match unsigned cs with
  | ['0'] => true
  | '0' :: 'b' :: c :: cs => (c :: cs).all fun c => c == '0' || c == '1' || c == '_'
  | '0' :: 'x' :: c :: cs => (c :: cs).all fun c => (hexValue? c).isSome || c == '_'
  | '0' :: c :: cs => (c :: cs).all fun c => ('0' ≤ c && c ≤ '7') || c == '_'
  | c :: cs =>
    isDigit c && c != '0' &&
      (cs.all isSpacedDigit || isSixties List.isEmpty (cs.dropWhile isSpacedDigit))
  | [] => false

/-- An exponent with its sign, or nothing. -/
def isExponent : List Char → Bool
  | [] => true
  | e :: s :: d :: ds => (e == 'e' || e == 'E') && (s == '+' || s == '-') && (d :: ds).all isDigit
  | _ => false

def isFloatForm (cs : List Char) : Bool :=
  let signed := unsigned cs
  let whole :=
    match signed with
    | d :: ds =>
      isDigit d &&
        match ds.dropWhile isSpacedDigit with
        | '.' :: fs => isExponent (fs.dropWhile isSpacedDigit)
        | ':' :: cs =>
          isSixties (fun rest => match rest with
            | '.' :: fs => fs.all isSpacedDigit
            | _ => false) (':' :: cs)
        | _ => false
    | [] => false
  let fraction :=
    match cs with
    | '.' :: d :: ds => isDigit d && isExponent (ds.dropWhile isSpacedDigit)
    | _ => false
  whole || fraction || [".inf", ".Inf", ".INF"].contains (String.ofList signed) ||
    [".nan", ".NaN", ".NAN"].contains (String.ofList cs)

/-- The kind of a text by its form. -/
def ofForm (cs : List Char) : Tag :=
  let text := String.ofList cs
  if trueWords.contains text || falseWords.contains text then .bool
  else if isFloatForm cs then .float
  else if isIntForm cs then .int
  else if ["", "~", "null", "Null", "NULL"].contains text then .null
  else if Timestamp.isForm cs then .timestamp
  else if text == "<<" then .merge
  else if text == "=" then .value
  else if ["!", "&", "*"].contains text then .unknown
  else .str

/-- The kind of a text whose kind is left open. A line break at its end does not count, unless there
is nothing else. -/
def ofText (text : String) : Tag :=
  match text.toList.reverse with
  | '\n' :: c :: cs => ofForm (c :: cs).reverse
  | ['\n'] => .str
  | cs => ofForm cs.reverse

end Tag

end BoundaryLint.Yaml
