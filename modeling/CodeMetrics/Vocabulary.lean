import CodeMetrics.Cst

/-!
# Vocabulary

How the kinds and fields of the syntax trees of a language are taken: a kind becomes a category of
the structure tree, a field becomes a role. Kinds and fields that are not listed have no category
and no role of their own.
-/

namespace CodeMetrics

open Cst

/-- How the syntax trees of a language are read. -/
structure Vocabulary where
  kinds : List (String × Kind)
  fields : List (String × Role)
  comments : List String
  /-- The kind of node whose operator decides whether it is a logical expression. -/
  binary : String
  logical : List String

namespace Vocabulary

/-- The category of a kind of node. -/
def kindOf (v : Vocabulary) (kind : String) : Kind := (v.kinds.lookup kind).getD .other

/-- The role of a field. -/
def roleOf? (v : Vocabulary) (field : String) : Option Role := v.fields.lookup field

/-- Whether a kind of node is a comment. -/
def isComment (v : Vocabulary) (kind : String) : Bool := v.comments.contains kind

/-- Whether an operator is logical. -/
def isLogical (v : Vocabulary) (operator : String) : Bool := v.logical.contains operator

/-- The roles of fields, in every language. -/
def commonFields : List (String × Role) :=
  [("name", .name), ("declarator", .declarator), ("parameters", .parameters), ("body", .body),
    ("condition", .condition), ("consequence", .consequence), ("alternative", .alternative),
    ("value", .value), ("default_value", .value), ("type", .type), ("function", .callee),
    ("argument", .operand)]

/-- Kinds of nodes that both languages have. -/
def commonKinds : List (String × Kind) :=
  [("translation_unit", .translationUnit),
    ("function_definition", .functionDefinition),
    ("function_declarator", .functionDeclarator),
    ("parameter_list", .parameterList),
    ("parameter_declaration", .parameter),
    ("variadic_parameter", .parameter),
    ("compound_statement", .compound),
    ("if_statement", .ifStatement),
    ("else_clause", .elseClause),
    ("for_statement", .forLoop),
    ("while_statement", .whileLoop),
    ("do_statement", .doLoop),
    ("switch_statement", .switch),
    ("case_statement", .case),
    ("labeled_statement", .labeled),
    ("conditional_expression", .conditionalExpression),
    ("call_expression", .call),
    ("field_expression", .fieldAccess),
    ("struct_specifier", .typeSpecifier),
    ("union_specifier", .typeSpecifier),
    ("enum_specifier", .enumSpecifier),
    ("identifier", .identifier),
    ("field_identifier", .identifier),
    ("type_identifier", .identifier),
    ("statement_identifier", .identifier),
    ("primitive_type", .primitiveType),
    ("preproc_include", .directive),
    ("preproc_def", .directive),
    ("preproc_function_def", .directive),
    ("preproc_call", .directive),
    ("preproc_if", .conditionalGroup),
    ("preproc_ifdef", .conditionalGroup),
    ("preproc_else", .conditionalGroup),
    ("preproc_elif", .conditionalGroup),
    ("preproc_elifdef", .conditionalGroup)]

/-- Kinds of nodes that only C++ has. -/
def cppKinds : List (String × Kind) :=
  [("namespace_definition", .namespaceDefinition),
    ("class_specifier", .typeSpecifier),
    ("template_declaration", .template),
    ("optional_parameter_declaration", .parameter),
    ("variadic_parameter_declaration", .parameter),
    ("lambda_expression", .lambda),
    ("for_range_loop", .rangeFor),
    ("try_statement", .tryStatement),
    ("catch_clause", .catchClause),
    ("namespace_identifier", .identifier),
    ("nested_namespace_specifier", .identifier),
    ("qualified_identifier", .identifier),
    ("destructor_name", .identifier),
    ("operator_name", .identifier),
    ("operator_cast", .identifier),
    ("template_function", .identifier),
    ("template_type", .identifier)]

/-- The vocabulary of C. -/
def c : Vocabulary where
  kinds := commonKinds
  fields := commonFields
  comments := ["comment"]
  binary := "binary_expression"
  logical := ["&&", "||"]

/-- The vocabulary of C++. -/
def cpp : Vocabulary where
  kinds := commonKinds ++ cppKinds
  fields := commonFields
  comments := ["comment"]
  binary := "binary_expression"
  logical := ["&&", "||", "and", "or"]

/-- The vocabulary of a language. -/
def ofLanguage : Language → Vocabulary
  | .c => c
  | .cpp => cpp

end Vocabulary

end CodeMetrics
