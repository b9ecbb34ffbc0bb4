import CodeMetrics.Grammar.C
import CodeMetrics.Grammar.CppTokens

/-!
# The grammar of C++

The rules of C++ as changes to the rules of C: those with a name that C has take the place of its
rule, the others are added.
-/

namespace CodeMetrics.Grammar.Cpp

open Rule

/-! ### Binding strength -/

namespace Binding

def structuredBinding : Int := -1
def threeWay : Int := 8
def new : Int := 16
def lambda : Int := 18

end Binding

open C (commaExpression)

/-- The end of a list of template parameters or arguments. -/
def templateEnd : Rule := shown ">" false (token CppTokens.templateEnd)

/-! ### Items -/

/-- The items that C++ adds, at the top and in blocks. -/
def addedItems : List Rule :=
  [ref "namespace_definition", ref "concept_definition", ref "namespace_alias_definition",
    ref "using_declaration", ref "alias_declaration", ref "static_assert_declaration",
    ref "template_declaration", ref "template_instantiation",
    refAs "constructor_or_destructor_definition" "function_definition",
    refAs "operator_cast_definition" "function_definition",
    refAs "operator_cast_declaration" "declaration"]

/-- Items. -/
def items : List (String × Definition) :=
  [("_top_level_item", .rule (any (C.itemAlternatives "_top_level_statement" [] ++ addedItems))),
    ("_block_item", .rule (any (C.itemAlternatives "statement" [] ++ addedItems)))]

/-! ### Types -/

/-- A name of a type that may be qualified. -/
def qualifiedType : Rule := refAs "qualified_type_identifier" "qualified_identifier"

/-- A specifier of a class, a struct or a union. -/
def classSpecifier (word : String) : Definition := .rule (all [word, ref "_class_declaration"])

/-- Types. -/
def types : List (String × Definition) :=
  [("placeholder_type_specifier", .rule (level 1 (all
      [field "constraint" (opt (ref "type_specifier")),
        any [ref "auto", refAs "decltype_auto" "decltype"]]))),
    ("auto", .token CppTokens.autoType),
    ("decltype_auto", .rule (all ["decltype", "(", ref "auto", ")"])),
    ("decltype", .rule (all ["decltype", "(", ref "expression", ")"])),
    ("type_specifier", .rule (any
      [ref "struct_specifier", ref "union_specifier", ref "enum_specifier", ref "class_specifier",
        ref "sized_type_specifier", ref "primitive_type", ref "template_type", ref "dependent_type",
        ref "placeholder_type_specifier", ref "decltype",
        rightAt 0 (any [qualifiedType, ref "_type_identifier"])])),
    ("type_qualifier", .rule (any
      ["const", "constexpr", "volatile", "restrict", "__restrict__", "__extension__", "_Atomic",
        "_Noreturn", "noreturn", "_Nonnull", ref "alignas_qualifier", "mutable", "constinit",
        "consteval"])),
    ("type_descriptor", .rule (rightAt 0 (all
      [star (ref "type_qualifier"), field "type" (ref "type_specifier"), star (ref "type_qualifier"),
        field "declarator" (opt (ref "_abstract_declarator"))]))),
    ("_class_declaration", .rule (all
      [star (any [ref "attribute_specifier", ref "alignas_qualifier"]),
        opt (ref "ms_declspec_modifier"), star (ref "attribute_declaration"),
        ref "_class_declaration_item"])),
    ("_class_declaration_item", .rule (rightAt 0 (all
      [any
        [field "name" (ref "_class_name"),
          all
            [field "name" (opt (ref "_class_name")), opt (ref "virtual_specifier"),
              opt (ref "base_class_clause"), field "body" (ref "field_declaration_list")]],
        opt (ref "attribute_specifier")]))),
    ("class_specifier", classSpecifier "class"),
    ("union_specifier", classSpecifier "union"),
    ("struct_specifier", classSpecifier "struct"),
    ("_class_name", .rule (rightAt 0 (any
      [ref "_type_identifier", ref "template_type", qualifiedType]))),
    ("virtual_specifier", .rule (any ["final", "override"])),
    ("explicit_function_specifier", .rule (any
      ["explicit", level C.Binding.call (all ["explicit", "(", ref "expression", ")"])])),
    ("base_class_clause", .rule (all
      [":",
        list1 (all
          [star (ref "attribute_declaration"),
            opt (any
              [ref "access_specifier", all [ref "access_specifier", opt "virtual"],
                all ["virtual", opt (ref "access_specifier")]]),
            ref "_class_name", opt "..."])])),
    ("enum_specifier", .rule (rightAt 0 (all
      ["enum", opt (any ["class", "struct"]),
        any
          [all
            [field "name" (ref "_class_name"), opt (ref "_enum_base_clause"),
              field "body" (opt (ref "enumerator_list"))],
            field "body" (ref "enumerator_list")],
        opt (ref "attribute_specifier")]))),
    ("_enum_base_clause", .rule (leftAt 0 (all
      [":",
        field "base" (any
          [qualifiedType, ref "_type_identifier", ref "primitive_type",
            ref "sized_type_specifier"])]))),
    ("storage_class_specifier", .rule (any
      ["extern", "static", "register", "inline", "__inline", "__inline__", "__forceinline",
        "thread_local", "__thread"])),
    ("dependent_type", .rule (dynamic (-1) (rightAt 0 (all ["typename", ref "type_specifier"]))))]

/-! ### Declarations -/

/-- A body that may be a try block. -/
def bodyOrTry : Rule := field "body" (any [ref "compound_statement", ref "try_statement"])

/-- A name of a conversion operator that may be qualified. -/
def castDeclarator : Rule :=
  field "declarator" (any
    [ref "operator_cast", refAs "qualified_operator_cast_identifier" "qualified_identifier"])

/-- The word that introduces a type parameter. -/
def typeWord : Rule := any ["typename", "class"]

/-- A reference declarator. -/
def reference (inner : String) : Definition :=
  .rule (dynamic 1 (rightAt 0 (all [any ["&", "&&"], ref inner])))

/-- What may take the place of a method's body. -/
def methodClauses : List Rule :=
  [ref "default_method_clause", ref "delete_method_clause", ref "pure_virtual_clause"]

/-- Declarations and definitions. -/
def declarations : List (String × Definition) :=
  [("function_definition", .rule (all
      [opt (ref "ms_call_modifier"), ref "_declaration_specifiers", opt (ref "ms_call_modifier"),
        field "declarator" (ref "_declarator"), bodyOrTry])),
    ("declaration", .rule (all
      [ref "_declaration_specifiers",
        list1 (field "declarator" (any
          [all [ref "_declarator", opt (ref "gnu_asm_expression")], ref "init_declarator"])),
        ";"])),
    ("_declaration_modifiers", .rule (any
      [ref "storage_class_specifier", ref "type_qualifier", ref "attribute_specifier",
        ref "attribute_declaration", ref "ms_declspec_modifier", "virtual"])),
    ("template_declaration", .rule (all
      ["template", field "parameters" (ref "template_parameter_list"), opt (ref "requires_clause"),
        any
          [ref "_empty_declaration", ref "alias_declaration", ref "declaration",
            ref "template_declaration", ref "function_definition", ref "concept_definition",
            ref "friend_declaration",
            refAs "constructor_or_destructor_declaration" "declaration",
            refAs "constructor_or_destructor_definition" "function_definition",
            refAs "operator_cast_declaration" "declaration",
            refAs "operator_cast_definition" "function_definition"]])),
    ("template_instantiation", .rule (all
      ["template", opt (ref "_declaration_specifiers"), field "declarator" (ref "_declarator"), ";"])),
    ("template_parameter_list", .rule (all
      ["<",
        list (any
          [ref "parameter_declaration", ref "optional_parameter_declaration",
            ref "type_parameter_declaration", ref "variadic_parameter_declaration",
            ref "variadic_type_parameter_declaration", ref "optional_type_parameter_declaration",
            ref "template_template_parameter_declaration"]),
        templateEnd])),
    ("type_parameter_declaration", .rule (level 1 (all [typeWord, opt (ref "_type_identifier")]))),
    ("variadic_type_parameter_declaration", .rule (level 1 (all
      [typeWord, "...", opt (ref "_type_identifier")]))),
    ("optional_type_parameter_declaration", .rule (all
      [typeWord, field "name" (opt (ref "_type_identifier")), "=",
        field "default_type" (ref "type_specifier")])),
    ("template_template_parameter_declaration", .rule (all
      ["template", field "parameters" (ref "template_parameter_list"),
        any
          [ref "type_parameter_declaration", ref "variadic_type_parameter_declaration",
            ref "optional_type_parameter_declaration"]])),
    ("parameter_list", .rule (all
      ["(",
        list (any
          [ref "parameter_declaration", ref "explicit_object_parameter_declaration",
            ref "optional_parameter_declaration", ref "variadic_parameter_declaration", "..."]),
        ")"])),
    ("explicit_object_parameter_declaration", .rule (all [ref "this", ref "parameter_declaration"])),
    ("optional_parameter_declaration", .rule (all
      [ref "_declaration_specifiers",
        field "declarator" (opt (any [ref "_declarator", ref "abstract_reference_declarator"])), "=",
        field "default_value" (ref "expression")])),
    ("variadic_parameter_declaration", .rule (all
      [ref "_declaration_specifiers",
        field "declarator" (any
          [ref "variadic_declarator", refAs "variadic_reference_declarator" "reference_declarator"])])),
    ("variadic_declarator", .rule (all ["...", opt (ref "identifier")])),
    ("variadic_reference_declarator", .rule (all [any ["&&", "&"], ref "variadic_declarator"])),
    ("init_declarator", .rule (any
      [all
        [field "declarator" (ref "_declarator"), "=",
          field "value" (any [ref "initializer_list", ref "expression"])],
        all
          [field "declarator" (ref "_declarator"),
            field "value" (any [ref "argument_list", ref "initializer_list"])]])),
    ("operator_cast", .rule (rightAt 1 (all
      ["operator", ref "_declaration_specifiers",
        field "declarator" (ref "_abstract_declarator")]))),
    ("compound_statement", .rule (level (-1) (all ["\x7b", star (ref "_block_item"), "\x7d"]))),
    ("field_initializer_list", .rule (all [":", list1 (ref "field_initializer")])),
    ("field_initializer", .rule (level 1 (all
      [any
        [ref "_field_identifier", ref "template_method",
          refAs "qualified_field_identifier" "qualified_identifier"],
        any [ref "initializer_list", ref "argument_list"], opt "..."]))),
    ("_field_declaration_list_item", .rule (any
      [ref "field_declaration", ref "preproc_def", ref "preproc_function_def", ref "preproc_call",
        refAs "preproc_if_in_field_declaration_list" "preproc_if",
        refAs "preproc_ifdef_in_field_declaration_list" "preproc_ifdef",
        ref "template_declaration", refAs "inline_method_definition" "function_definition",
        refAs "constructor_or_destructor_definition" "function_definition",
        refAs "constructor_or_destructor_declaration" "declaration",
        refAs "operator_cast_definition" "function_definition",
        refAs "operator_cast_declaration" "declaration", ref "friend_declaration",
        all [ref "access_specifier", ":"], ref "alias_declaration", ref "using_declaration",
        ref "type_definition", ref "static_assert_declaration", ";"])),
    ("field_declaration", .rule (all
      [ref "_declaration_specifiers",
        list (all
          [field "declarator" (ref "_field_declarator"),
            opt (any
              [ref "bitfield_clause", field "default_value" (ref "initializer_list"),
                all
                  ["=", field "default_value" (any [ref "expression", ref "initializer_list"])]])]),
        opt (ref "attribute_specifier"), ";"])),
    ("inline_method_definition", .rule (all
      [ref "_declaration_specifiers", field "declarator" (ref "_field_declarator"),
        any (bodyOrTry :: methodClauses)])),
    ("_constructor_specifiers", .rule (any
      [ref "_declaration_modifiers", ref "explicit_function_specifier"])),
    ("operator_cast_definition", .rule (all
      [star (ref "_constructor_specifiers"), castDeclarator, bodyOrTry])),
    ("operator_cast_declaration", .rule (level 1 (all
      [star (ref "_constructor_specifiers"), castDeclarator,
        opt (all ["=", field "default_value" (ref "expression")]), ";"]))),
    ("constructor_try_statement", .rule (all
      ["try", opt (ref "field_initializer_list"), field "body" (ref "compound_statement"),
        plus (ref "catch_clause")])),
    ("constructor_or_destructor_definition", .rule (all
      [star (ref "_constructor_specifiers"), field "declarator" (ref "function_declarator"),
        any
          ([all [opt (ref "field_initializer_list"), field "body" (ref "compound_statement")],
            refAs "constructor_try_statement" "try_statement"] ++ methodClauses)])),
    ("constructor_or_destructor_declaration", .rule (all
      [star (ref "_constructor_specifiers"), field "declarator" (ref "function_declarator"), ";"])),
    ("default_method_clause", .rule (all ["=", "default", ";"])),
    ("delete_method_clause", .rule (all ["=", "delete", ";"])),
    ("pure_virtual_clause", .rule (all ["=", token CppTokens.pureZero, ";"])),
    ("friend_declaration", .rule (all
      [opt "constexpr", "friend",
        any
          [ref "declaration", ref "function_definition",
            all [opt (any ["class", "struct", "union"]), ref "_class_name", ";"]]])),
    ("access_specifier", .rule (any ["public", "private", "protected"]))]

/-! ### Declarators -/

/-- A template applied to arguments. -/
def applied (name : String) : Definition :=
  .rule (all [field "name" (ref name), field "arguments" (ref "template_argument_list")])

/-- Declarators. -/
def declarators : List (String × Definition) :=
  [("_declarator", .rule (any
      [ref "attributed_declarator", ref "pointer_declarator", ref "function_declarator",
        ref "array_declarator", ref "parenthesized_declarator", ref "identifier",
        ref "reference_declarator", ref "qualified_identifier", ref "template_function",
        ref "operator_name", ref "destructor_name", ref "structured_binding_declarator"])),
    ("_field_declarator", .rule (any
      [refAs "attributed_field_declarator" "attributed_declarator",
        refAs "pointer_field_declarator" "pointer_declarator",
        refAs "function_field_declarator" "function_declarator",
        refAs "array_field_declarator" "array_declarator",
        refAs "parenthesized_field_declarator" "parenthesized_declarator", ref "_field_identifier",
        refAs "reference_field_declarator" "reference_declarator", ref "template_method",
        ref "operator_name"])),
    ("_type_declarator", .rule (any
      [refAs "attributed_type_declarator" "attributed_declarator",
        refAs "pointer_type_declarator" "pointer_declarator",
        refAs "function_type_declarator" "function_declarator",
        refAs "array_type_declarator" "array_declarator",
        refAs "parenthesized_type_declarator" "parenthesized_declarator", ref "_type_identifier",
        shown "primitive_type" true (any ["signed", "unsigned", "long", "short"]),
        ref "primitive_type", refAs "reference_type_declarator" "reference_declarator"])),
    ("_abstract_declarator", .rule (any
      [ref "abstract_pointer_declarator", ref "abstract_function_declarator",
        ref "abstract_array_declarator", ref "abstract_parenthesized_declarator",
        ref "abstract_reference_declarator"])),
    ("reference_declarator", reference "_declarator"),
    ("reference_field_declarator", reference "_field_declarator"),
    ("reference_type_declarator", reference "_type_declarator"),
    ("abstract_reference_declarator", .rule (rightAt 0 (all
      [any ["&", "&&"], opt (ref "_abstract_declarator")]))),
    ("structured_binding_declarator", .rule (dynamic Binding.structuredBinding (all
      ["[", list1 (ref "identifier"), "]"]))),
    ("ref_qualifier", .rule (any ["&", "&&"])),
    ("_function_declarator_seq", .rule (all
      [field "parameters" (ref "parameter_list"), opt (ref "_function_attributes_start"),
        opt (ref "ref_qualifier"), opt (ref "_function_exception_specification"),
        opt (ref "_function_attributes_end"), opt (ref "trailing_return_type"),
        opt (ref "_function_postfix")])),
    ("_function_attributes_start", .rule (level 1 (any
      [all [plus (ref "attribute_specifier"), star (ref "type_qualifier")],
        all [star (ref "attribute_specifier"), plus (ref "type_qualifier")]]))),
    ("_function_exception_specification", .rule (any [ref "noexcept", ref "throw_specifier"])),
    ("_function_attributes_end", .rule (rightAt 0 (all
      [opt (ref "gnu_asm_expression"),
        any
          [all [plus (ref "attribute_specifier"), star (ref "attribute_declaration")],
            all [star (ref "attribute_specifier"), plus (ref "attribute_declaration")]]]))),
    ("_function_postfix", .rule (rightAt 0 (any
      [plus (ref "virtual_specifier"), ref "requires_clause"]))),
    ("function_declarator", .rule (dynamic 1 (all
      [field "declarator" (ref "_declarator"), ref "_function_declarator_seq"]))),
    ("function_field_declarator", .rule (dynamic 1 (all
      [field "declarator" (ref "_field_declarator"), ref "_function_declarator_seq"]))),
    ("abstract_function_declarator", .rule (all
      [field "declarator" (opt (ref "_abstract_declarator")), ref "_function_declarator_seq"])),
    ("trailing_return_type", .rule (all ["->", ref "type_descriptor"])),
    ("noexcept", .rule (rightAt 0 (all
      ["noexcept", opt (all ["(", opt (ref "expression"), ")"])]))),
    ("throw_specifier", .rule (all ["throw", all ["(", list (ref "type_descriptor"), ")"]])),
    ("template_type", applied "_type_identifier"),
    ("template_method", applied "_field_identifier"),
    ("template_function", applied "identifier"),
    ("template_argument_list", .rule (all
      ["<",
        list (any
          [dynamic 3 (ref "type_descriptor"),
            dynamic 2 (refAs "type_parameter_pack_expansion" "parameter_pack_expansion"),
            dynamic 1 (ref "expression")]),
        templateEnd]))]

/-! ### Namespaces, aliases and assertions -/

/-- Namespaces, aliases and assertions. -/
def namespaces : List (String × Definition) :=
  [("namespace_definition", .rule (all
      [opt "inline", "namespace", opt (ref "attribute_declaration"),
        field "name" (opt (any [ref "_namespace_identifier", ref "nested_namespace_specifier"])),
        field "body" (ref "declaration_list")])),
    ("namespace_alias_definition", .rule (all
      ["namespace", field "name" (ref "_namespace_identifier"), "=",
        any [ref "_namespace_identifier", ref "nested_namespace_specifier"], ";"])),
    ("_namespace_specifier", .rule (all [opt "inline", ref "_namespace_identifier"])),
    ("nested_namespace_specifier", .rule (level 1 (all
      [opt (ref "_namespace_specifier"), "::",
        any [ref "nested_namespace_specifier", ref "_namespace_specifier"]]))),
    ("using_declaration", .rule (all
      ["using", opt (any ["namespace", "enum"]), any [ref "identifier", ref "qualified_identifier"],
        ";"])),
    ("alias_declaration", .rule (all
      ["using", field "name" (ref "_type_identifier"), star (ref "attribute_declaration"), "=",
        field "type" (ref "type_descriptor"), ";"])),
    ("static_assert_declaration", .rule (all
      ["static_assert", "(", field "condition" (ref "expression"),
        opt (all [",", field "message" (ref "_string")]), ")", ";"])),
    ("concept_definition", .rule (all
      ["concept", field "name" (ref "identifier"), "=", ref "expression", ";"]))]

/-! ### Statements -/

/-- The statements that C++ adds. -/
def addedStatements : List Rule :=
  [ref "co_return_statement", ref "co_yield_statement", ref "for_range_loop", ref "try_statement",
    ref "throw_statement"]

/-- Statements. -/
def statements : List (String × Definition) :=
  [("_top_level_statement", .rule (any
      ((ref "case_statement" ::
        C.simpleStatements (refAs "_top_level_expression_statement" "expression_statement")) ++
        addedStatements))),
    ("_non_case_statement", .rule (any
      (C.simpleStatements (ref "expression_statement") ++
        [ref "seh_try_statement", ref "seh_leave_statement"] ++ addedStatements))),
    ("switch_statement", .rule (all
      ["switch", field "condition" (ref "condition_clause"), field "body" (ref "compound_statement")])),
    ("while_statement", .rule (all
      ["while", field "condition" (ref "condition_clause"), field "body" (ref "statement")])),
    ("if_statement", .rule (rightAt 0 (all
      ["if", opt "constexpr", field "condition" (ref "condition_clause"),
        field "consequence" (ref "statement"), field "alternative" (opt (ref "else_clause"))]))),
    ("_for_statement_body", .rule (dynamic 1 (all
      [any
        [field "initializer" (ref "declaration"),
          all [field "initializer" (opt commaExpression), ";"]],
        field "condition" (opt commaExpression), ";", field "update" (opt commaExpression)]))),
    ("for_range_loop", .rule (all
      ["for", "(", ref "_for_range_loop_body", ")", field "body" (ref "statement")])),
    ("_for_range_loop_body", .rule (all
      [field "initializer" (opt (ref "init_statement")), ref "_declaration_specifiers",
        field "declarator" (ref "_declarator"), ":",
        field "right" (any [ref "expression", ref "initializer_list"])])),
    ("init_statement", .rule (any
      [ref "alias_declaration", ref "type_definition", ref "declaration",
        ref "expression_statement"])),
    ("condition_clause", .rule (all
      ["(", field "initializer" (opt (ref "init_statement")),
        field "value" (any
          [ref "expression", ref "comma_expression", refAs "condition_declaration" "declaration"]),
        ")"])),
    ("condition_declaration", .rule (all
      [ref "_declaration_specifiers", field "declarator" (ref "_declarator"),
        any
          [all ["=", field "value" (ref "expression")],
            field "value" (ref "initializer_list")]])),
    ("return_statement", .rule (any
      [all ["return", opt commaExpression, ";"], all ["return", ref "initializer_list", ";"]])),
    ("co_return_statement", .rule (all ["co_return", opt (ref "expression"), ";"])),
    ("co_yield_statement", .rule (all ["co_yield", ref "expression", ";"])),
    ("throw_statement", .rule (all ["throw", opt (ref "expression"), ";"])),
    ("try_statement", .rule (all
      ["try", field "body" (ref "compound_statement"), plus (ref "catch_clause")])),
    ("catch_clause", .rule (all
      ["catch", field "parameters" (ref "parameter_list"), field "body" (ref "compound_statement")]))]

/-! ### Expressions -/

/-- The binary operators that C++ adds. -/
def addedOperators : List (String × Int) :=
  [("<=>", Binding.threeWay), ("or", C.Binding.logicalOr), ("and", C.Binding.logicalAnd),
    ("bitor", C.Binding.inclusiveOr), ("xor", C.Binding.exclusiveOr),
    ("bitand", C.Binding.bitwiseAnd), ("not_eq", C.Binding.equal)]

/-- The operators over which a pack may be folded. -/
def foldOperators : List String :=
  ["+", "-", "*", "/", "%", "^", "&", "|", "=", "<", ">", "<<", ">>", "+=", "-=", "*=", "/=", "%=",
    "^=", "&=", "|=", ">>=", "<<=", "==", "!=", "<=", ">=", "&&", "||", ",", ".*", "->*", "or", "and",
    "bitor", "xor", "bitand", "not_eq"]

/-- The operators that assign. -/
def assignmentOperators : List Rule := C.assignmentOperators ++ ["and_eq", "or_eq", "xor_eq"].map lit

/-- The operators that may be defined, apart from those for memory and literals. -/
def definableOperators : List Rule :=
  ["co_await", "+", "-", "*", "/", "%", "^", "&", "|", "~", "!", "=", "<", ">", "+=", "-=", "*=",
    "/=", "%=", "^=", "&=", "|=", "<<", ">>", ">>=", "<<=", "==", "!=", "<=", ">=", "<=>", "&&",
    "||", "++", "--", ",", "->*", "->"].map lit ++
  [token (CTokens.joined "()"), token (CTokens.joined "[]")] ++
  ["xor", "bitand", "bitor", "compl", "not", "xor_eq", "and_eq", "or_eq", "not_eq", "and", "or"].map
    lit

/-- The right side of an assignment. -/
def assigned : Rule := field "right" (any [ref "expression", ref "initializer_list"])

/-- Two constraints joined by an operator. -/
def joinedConstraints (strength : Int) (operators : List Rule) : Definition :=
  .rule (leftAt strength (all
    [field "left" (ref "_requirement_clause_constraint"), field "operator" (any operators),
      field "right" (ref "_requirement_clause_constraint")]))

/-- Expressions. -/
def expressions : List (String × Definition) :=
  [("_expression_not_binary", .rule (any
      (C.expressionAlternatives ++
        [ref "co_await_expression", ref "requires_expression", ref "requires_clause",
          ref "template_function", ref "qualified_identifier", ref "new_expression",
          ref "delete_expression", ref "lambda_expression", ref "parameter_pack_expansion",
          ref "this", ref "user_defined_literal", ref "fold_expression"]))),
    ("_string", .rule (any
      [ref "string_literal", ref "raw_string_literal", ref "concatenated_string"])),
    ("raw_string_literal", .rule (all
      [any ["R\"", "LR\"", "uR\"", "UR\"", "u8R\""],
        any
          [all
            [field "delimiter" (ref "raw_string_delimiter"), "(", ref "raw_string_content", ")",
              ref "raw_string_delimiter"],
            all ["(", ref "raw_string_content", ")"]],
        "\""])),
    ("subscript_expression", .rule (level C.Binding.subscript (all
      [field "argument" (ref "expression"), field "indices" (ref "subscript_argument_list")]))),
    ("subscript_argument_list", .rule (all
      ["[", list (any [ref "expression", ref "initializer_list"]), "]"])),
    ("call_expression", .rule (any
      [level C.Binding.call (all
        [field "function" (ref "expression"), field "arguments" (ref "argument_list")]),
        all [field "function" (ref "primitive_type"), field "arguments" (ref "argument_list")]])),
    ("co_await_expression", .rule (leftAt C.Binding.unary (all
      [field "operator" "co_await", field "argument" (ref "expression")]))),
    ("new_expression", .rule (rightAt Binding.new (all
      [opt "::", "new", field "placement" (opt (ref "argument_list")),
        field "type" (ref "type_specifier"), field "declarator" (opt (ref "new_declarator")),
        field "arguments" (opt (any [ref "argument_list", ref "initializer_list"]))]))),
    ("new_declarator", .rule (rightAt 0 (all
      ["[", field "length" (ref "expression"), "]", opt (ref "new_declarator")]))),
    ("delete_expression", .rule (all
      [opt "::", "delete", opt (all ["[", "]"]), ref "expression"])),
    ("field_expression", .rule (all
      [level C.Binding.member (all
        [field "argument" (ref "expression"), field "operator" (any [".", ".*", "->"])]),
        field "field" (any
          [dynamic 1 (ref "_field_identifier"),
            refAs "qualified_field_identifier" "qualified_identifier", ref "destructor_name",
            ref "template_method", refAs "dependent_field_identifier" "dependent_name"])])),
    ("type_requirement", .rule (all ["typename", ref "_class_name"])),
    ("compound_requirement", .rule (all
      ["\x7b", ref "expression", "\x7d", opt "noexcept", opt (ref "trailing_return_type"), ";"])),
    ("_requirement", .rule (any
      [refAs "expression_statement" "simple_requirement", ref "type_requirement",
        ref "compound_requirement"])),
    ("requirement_seq", .rule (all ["\x7b", star (ref "_requirement"), "\x7d"])),
    ("constraint_conjunction", joinedConstraints C.Binding.logicalAnd ["&&", "and"]),
    ("constraint_disjunction", joinedConstraints C.Binding.logicalOr ["||", "or"]),
    ("_requirement_clause_constraint", .rule (any
      [ref "true", ref "false", ref "_class_name", ref "fold_expression", ref "lambda_expression",
        ref "requires_expression", all ["(", ref "expression", ")"], ref "constraint_conjunction",
        ref "constraint_disjunction"])),
    ("requires_clause", .rule (all
      ["requires", field "constraint" (ref "_requirement_clause_constraint")])),
    ("requires_parameter_list", .rule (all
      ["(",
        list (any
          [ref "parameter_declaration", ref "optional_parameter_declaration",
            ref "variadic_parameter_declaration"]),
        ")"])),
    ("requires_expression", .rule (all
      ["requires",
        field "parameters" (opt (refAs "requires_parameter_list" "parameter_list")),
        field "requirements" (ref "requirement_seq")])),
    ("lambda_expression", .rule (level Binding.lambda (all
      [field "captures" (ref "lambda_capture_specifier"),
        opt (all
          [field "template_parameters" (ref "template_parameter_list"),
            opt (field "constraint" (ref "requires_clause"))]),
        opt (field "declarator" (ref "abstract_function_declarator")),
        field "body" (ref "compound_statement")]))),
    ("lambda_capture_specifier", .rule (level Binding.lambda (all
      ["[",
        any
          [ref "lambda_default_capture", list (ref "_lambda_capture"),
            all [ref "lambda_default_capture", ",", list1 (ref "_lambda_capture")]],
        "]"]))),
    ("lambda_default_capture", .rule (any ["=", "&"])),
    ("_lambda_capture_identifier", .rule (all
      [opt "&",
        any
          [ref "identifier", ref "qualified_identifier",
            refAs "identifier_parameter_pack_expansion" "parameter_pack_expansion"]])),
    ("lambda_capture_initializer", .rule (all
      [opt "&", opt "...", field "left" (ref "identifier"), "=", field "right" (ref "expression")])),
    ("_lambda_capture", .rule (any
      [all [opt "*", ref "this"], ref "_lambda_capture_identifier",
        ref "lambda_capture_initializer"])),
    ("_fold_operator", .rule (any (foldOperators.map lit))),
    ("_binary_fold_operator", .rule (any (foldOperators.map fun o =>
      all [field "operator" (lit o), "...", field "operator" (lit o)]))),
    ("_unary_left_fold", .rule (all
      [field "left" "...", field "operator" (ref "_fold_operator"), field "right" (ref "expression")])),
    ("_unary_right_fold", .rule (all
      [field "left" (ref "expression"), field "operator" (ref "_fold_operator"), field "right" "..."])),
    ("_binary_fold", .rule (all
      [field "left" (ref "expression"), ref "_binary_fold_operator",
        field "right" (ref "expression")])),
    ("fold_expression", .rule (all
      ["(", any [ref "_unary_right_fold", ref "_unary_left_fold", ref "_binary_fold"], ")"])),
    ("parameter_pack_expansion", .rule (level (-1) (all
      [field "pattern" (ref "expression"), "..."]))),
    ("type_parameter_pack_expansion", .rule (all
      [field "pattern" (ref "type_descriptor"), "..."])),
    ("identifier_parameter_pack_expansion", .rule (all
      [field "pattern" (ref "identifier"), "..."])),
    ("sizeof_expression", .rule (rightAt C.Binding.sizeOf (any
      [level C.Binding.sizeOf (all
        ["sizeof",
          any
            [field "value" (ref "expression"),
              all ["(", field "type" (ref "type_descriptor"), ")"]]]),
        all ["sizeof", "...", "(", field "value" (ref "identifier"), ")"]]))),
    ("unary_expression", .rule (any
      [leftAt C.Binding.unary (all
        [field "operator" (any ["!", "~", "-", "+"]), field "argument" (ref "expression")]),
        leftAt C.Binding.unary (all
          [field "operator" (any ["not", "compl"]), field "argument" (ref "expression")])])),
    ("binary_expression", .rule (any
      (C.binaryAlternatives "expression" (C.binaryOperators ++ addedOperators)))),
    ("argument_list", .rule (all
      ["(",
        list (any
          [all [opt "__extension__", ref "expression"], ref "initializer_list",
            ref "compound_statement"]),
        ")"])),
    ("destructor_name", .rule (level 1 (all ["~", ref "identifier"]))),
    ("compound_literal_expression", .rule (any
      [all
        ["(", field "type" (ref "type_descriptor"), ")", field "value" (ref "initializer_list")],
        all
          [field "type" (any [ref "_class_name", ref "primitive_type"]),
            field "value" (ref "initializer_list")]]))]

/-! ### Qualified names and literals -/

/-- Qualified names and literals. -/
def names : List (String × Definition) :=
  [("dependent_identifier", .rule (all ["template", ref "template_function"])),
    ("dependent_field_identifier", .rule (all ["template", ref "template_method"])),
    ("dependent_type_identifier", .rule (all ["template", ref "template_type"])),
    ("_scope_resolution", .rule (level 1 (all
      [field "scope" (opt (any
        [ref "_namespace_identifier", ref "template_type", ref "decltype",
          refAs "dependent_type_identifier" "dependent_name"])),
        "::"]))),
    ("qualified_field_identifier", .rule (all
      [ref "_scope_resolution",
        field "name" (any
          [refAs "dependent_field_identifier" "dependent_name",
            refAs "qualified_field_identifier" "qualified_identifier", ref "template_method",
            dynamic 1 (ref "_field_identifier")])])),
    ("qualified_identifier", .rule (all
      [ref "_scope_resolution",
        field "name" (any
          [refAs "dependent_identifier" "dependent_name", ref "qualified_identifier",
            ref "template_type", ref "template_function", all [opt "template", ref "identifier"],
            ref "operator_name", ref "destructor_name", ref "pointer_type_declarator"])])),
    ("qualified_type_identifier", .rule (all
      [ref "_scope_resolution",
        field "name" (any
          [refAs "dependent_type_identifier" "dependent_name",
            refAs "qualified_type_identifier" "qualified_identifier", ref "template_type",
            ref "_type_identifier"])])),
    ("qualified_operator_cast_identifier", .rule (all
      [ref "_scope_resolution",
        field "name" (any
          [refAs "qualified_operator_cast_identifier" "qualified_identifier",
            ref "operator_cast"])])),
    ("_assignment_expression_lhs", .rule (all
      [field "left" (ref "expression"), field "operator" (any assignmentOperators), assigned])),
    ("assignment_expression", .rule (rightAt C.Binding.assignment (all
      [field "left" (ref "_assignment_left_expression"), field "operator" (any assignmentOperators),
        assigned]))),
    ("_assignment_left_expression", .rule (any
      [ref "identifier", ref "call_expression", ref "field_expression", ref "pointer_expression",
        ref "subscript_expression", ref "parenthesized_expression", ref "qualified_identifier",
        ref "user_defined_literal"])),
    ("parenthesized_expression", .rule (any
      [all
        ["(", any [ref "expression", ref "comma_expression", ref "compound_statement"], ")"],
        all ["(", refAs "_assignment_expression_lhs" "assignment_expression", ")"]])),
    ("operator_name", .rule (level 1 (all
      ["operator",
        any
          (definableOperators ++
            [all [any ["new", "delete"], opt (token (CTokens.joined "[]"))],
              all [token (CTokens.joined "\"\""), ref "identifier"]])]))),
    ("this", .token CppTokens.thisObject),
    ("concatenated_string", .rule (rightAt 0 (all
      [any [ref "identifier", ref "string_literal", ref "raw_string_literal"],
        any [ref "string_literal", ref "raw_string_literal"],
        star (any [ref "identifier", ref "string_literal", ref "raw_string_literal"])]))),
    ("number_literal", .token CppTokens.number),
    ("literal_suffix", .token CppTokens.literalSuffix),
    ("user_defined_literal", .rule (all
      [any [ref "number_literal", ref "char_literal", ref "_string"], ref "literal_suffix"])),
    ("_namespace_identifier", .rule (refAs "identifier" "namespace_identifier"))]

/-- **The grammar of C++.** -/
def grammar : Grammar where
  definitions :=
    Grammar.needed
      (Grammar.redefine C.grammar.definitions
        (items ++ types ++ declarations ++ declarators ++ namespaces ++ statements ++ expressions ++
          names))
      C.grammar.extras
  extras := C.grammar.extras
  inlined := C.grammar.inlined ++ ["_namespace_identifier"]
  supertypes := C.grammar.supertypes
  word := C.grammar.word
  scanned := [CppTokens.rawDelimiter, CppTokens.rawContent]
  orderings := [["argument_list", "type_qualifier"], ["_expression_not_binary", "_class_name"]]
  rivals :=
    C.grammar.rivals ++
      [("::", [":"]), ("[[", ["["]), ("&=", ["&"]), ("*=", ["*"]), ("template end", [">"])] ++
      ["R", "LR", "uR", "UR", "u8R"].map fun mark => (mark ++ "\"", ["identifier"])

end CodeMetrics.Grammar.Cpp
