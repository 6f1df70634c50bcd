import BoundaryLint.Selector.Basic
import BoundaryLint.Tree.Kind

/-!
# Kind names

A kind is written by its name in the tree, in lower case with low lines, or by its name in the
ESTree vocabulary. The latter may stand for several kinds, and `LogicalExpression` asks for a
logical operator.
-/
namespace BoundaryLint.Selector

/-- The ESTree names with the kinds they stand for. -/
def estreeKinds : List (String × KindSpec) :=
  [("ArrowFunctionExpression", ⟨["arrow_function"], none⟩),
   ("AssignmentExpression", ⟨["assignment_expression", "augmented_assignment_expression"], none⟩),
   ("AwaitExpression", ⟨["await_expression"], none⟩),
   ("BinaryExpression", ⟨["binary_expression"], none⟩),
   ("CallExpression", ⟨["call_expression"], none⟩),
   ("ClassDeclaration", ⟨["class_declaration"], none⟩),
   ("ConditionalExpression", ⟨["ternary_expression"], none⟩),
   ("ExportAllDeclaration", ⟨["export_statement"], none⟩),
   ("ExportNamedDeclaration", ⟨["export_statement"], none⟩),
   ("FunctionDeclaration", ⟨["function_declaration"], none⟩),
   ("FunctionExpression", ⟨["function_expression", "function"], none⟩),
   ("Identifier", ⟨Kind.identifiers, none⟩),
   ("IfStatement", ⟨["if_statement"], none⟩),
   ("ImportDeclaration", ⟨["import_statement"], none⟩),
   ("JSXAttribute", ⟨["jsx_attribute"], none⟩),
   ("JSXElement", ⟨["jsx_element", "jsx_self_closing_element"], none⟩),
   ("Literal", ⟨Kind.literals.filter (· != "template_string"), none⟩),
   ("LogicalExpression", ⟨["binary_expression"], some ["&&", "||", "??"]⟩),
   ("MemberExpression", ⟨["member_expression", "subscript_expression"], none⟩),
   ("MethodDefinition", ⟨["method_definition"], none⟩),
   ("NewExpression", ⟨["new_expression"], none⟩),
   ("ObjectExpression", ⟨["object"], none⟩),
   ("Property", ⟨["pair"], none⟩),
   ("ReturnStatement", ⟨["return_statement"], none⟩),
   ("SwitchStatement", ⟨["switch_statement"], none⟩),
   ("TemplateLiteral", ⟨["template_string"], none⟩),
   ("ThrowStatement", ⟨["throw_statement"], none⟩),
   ("UnaryExpression", ⟨["unary_expression"], none⟩),
   ("UpdateExpression", ⟨["update_expression"], none⟩),
   ("VariableDeclaration", ⟨["lexical_declaration", "variable_declaration"], none⟩),
   ("VariableDeclarator", ⟨["variable_declarator"], none⟩)]

def isLowerChar (c : Char) : Bool :=
  c == '_' || ('a' ≤ c && c ≤ 'z')

/-- A name in lower case with digits and low lines. -/
def isTreeName : List Char → Bool
  | [] => false
  | c :: cs => isLowerChar c && cs.all fun c => isLowerChar c || c.isDigit

/-- What a kind name stands for, given the kinds that are known. -/
def kindSpec? (known : String → Bool) (name : List Char) : Option KindSpec :=
  let key := String.ofList name
  match estreeKinds.lookup key with
  | some k => some k
  | none => if isTreeName name && known key then some ⟨[key], none⟩ else none

end BoundaryLint.Selector
