/-!
# Kinds of nodes

The named kinds of the two dialects a source file can be written in, and the groups of kinds that
the rules speak of. A dialect may not be installed.
-/
namespace BoundaryLint

/-- The dialects of source files. -/
inductive Dialect where
  | typescript
  | tsx
  deriving DecidableEq, Repr

namespace Dialect

/-- File extensions with the dialect of each. Plain scripts may hold markup, which only one of the
dialects accepts. -/
def byExtension : List (String × Dialect) :=
  [(".ts", .typescript), (".mts", .typescript), (".cts", .typescript), (".js", .tsx),
   (".mjs", .tsx), (".cjs", .tsx), (".tsx", .tsx), (".jsx", .tsx)]

def extensions : List String :=
  byExtension.map (·.1)

def isSupported (extension : String) : Bool :=
  extensions.contains extension

end Dialect

namespace Kind

/-- Named kinds of both dialects. -/
def shared : List String :=
  ["abstract_class_declaration", "abstract_method_signature", "accessibility_modifier",
   "adding_type_annotation", "ambient_declaration", "arguments", "array", "array_pattern",
   "array_type", "arrow_function", "as_expression", "asserts", "asserts_annotation",
   "assignment_expression", "assignment_pattern", "augmented_assignment_expression",
   "await_expression", "binary_expression", "break_statement", "call_expression",
   "call_signature", "catch_clause", "class", "class_body", "class_declaration", "class_heritage",
   "class_static_block", "comment", "computed_property_name", "conditional_type", "constraint",
   "construct_signature", "constructor_type", "continue_statement", "debugger_statement",
   "declaration", "decorator", "default_type", "do_statement", "else_clause", "empty_statement",
   "enum_assignment", "enum_body", "enum_declaration", "escape_sequence", "existential_type",
   "export_clause", "export_specifier", "export_statement", "expression", "expression_statement",
   "extends_clause", "extends_type_clause", "false", "finally_clause", "flow_maybe_type",
   "for_in_statement", "for_statement", "formal_parameters", "function_declaration",
   "function_expression", "function_signature", "function_type", "generator_function",
   "generator_function_declaration", "generic_type", "hash_bang_line", "html_comment",
   "identifier", "if_statement", "implements_clause", "import", "import_alias",
   "import_attribute", "import_clause", "import_require_clause", "import_specifier",
   "import_statement", "index_signature", "index_type_query", "infer_type",
   "instantiation_expression", "interface_body", "interface_declaration", "internal_module",
   "intersection_type", "jsx_text", "labeled_statement", "lexical_declaration", "literal_type",
   "lookup_type", "mapped_type_clause", "member_expression", "meta_property", "method_definition",
   "method_signature", "module", "named_imports", "namespace_export", "namespace_import",
   "nested_identifier", "nested_type_identifier", "new_expression", "non_null_expression", "null",
   "number", "object", "object_assignment_pattern", "object_pattern", "object_type",
   "omitting_type_annotation", "opting_type_annotation", "optional_chain", "optional_parameter",
   "optional_type", "override_modifier", "pair", "pair_pattern", "parenthesized_expression",
   "parenthesized_type", "pattern", "predefined_type", "primary_expression", "primary_type",
   "private_property_identifier", "program", "property_identifier", "property_signature",
   "public_field_definition", "readonly_type", "regex", "regex_flags", "regex_pattern",
   "required_parameter", "rest_pattern", "rest_type", "return_statement", "satisfies_expression",
   "sequence_expression", "shorthand_property_identifier",
   "shorthand_property_identifier_pattern", "spread_element", "statement", "statement_block",
   "statement_identifier", "string", "string_fragment", "subscript_expression", "super",
   "switch_body", "switch_case", "switch_default", "switch_statement", "template_literal_type",
   "template_string", "template_substitution", "template_type", "ternary_expression", "this",
   "this_type", "throw_statement", "true", "try_statement", "tuple_type", "type",
   "type_alias_declaration", "type_annotation", "type_arguments", "type_identifier",
   "type_parameter", "type_parameters", "type_predicate", "type_predicate_annotation",
   "type_query", "unary_expression", "undefined", "union_type", "update_expression",
   "variable_declaration", "variable_declarator", "while_statement", "with_statement",
   "yield_expression"]

/-- Named kinds of one dialect only. -/
def ofDialect : Dialect → List String
  | .typescript => ["type_assertion"]
  | .tsx =>
    ["html_character_reference", "jsx_attribute", "jsx_closing_element", "jsx_element",
     "jsx_expression", "jsx_namespace_name", "jsx_opening_element", "jsx_self_closing_element"]

/-- The kind of nodes for text that is no program. -/
def error : String := "ERROR"

/-- Whether a dialect knows a named kind. Every beginning of the error kind counts as known. -/
def isKnownTo (d : Dialect) (kind : String) : Bool :=
  kind.toList.isPrefixOf error.toList || shared.contains kind || (ofDialect d).contains kind

/-- Whether one of the installed dialects knows a kind. If none is installed nothing can be
checked, and every kind counts as known. The missing extensions are those without a dialect. -/
def isKnownWithout (missing : List String) (kind : String) : Bool :=
  let installed := [(".ts", Dialect.typescript), (".tsx", Dialect.tsx)].filter fun e =>
    !missing.contains e.1
  installed.isEmpty || installed.any fun e => isKnownTo e.2 kind

def isKnown (kind : String) : Bool :=
  isKnownWithout [] kind

def identifiers : List String :=
  ["identifier", "property_identifier", "shorthand_property_identifier",
   "shorthand_property_identifier_pattern", "type_identifier", "private_property_identifier"]

def strings : List String := ["string", "template_string"]

def literals : List String := strings ++ ["number", "true", "false", "null", "regex"]

def functions : List String :=
  ["function_declaration", "function_expression", "function", "arrow_function",
   "method_definition", "generator_function_declaration", "generator_function"]

def isIdentifier (kind : String) : Bool := identifiers.contains kind

def isString (kind : String) : Bool := strings.contains kind

def isLiteral (kind : String) : Bool := literals.contains kind

def isFunction (kind : String) : Bool := functions.contains kind

end Kind

end BoundaryLint
