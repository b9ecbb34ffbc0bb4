import CodeMetrics.Grammar.CTokens

/-!
# The grammar of C

The rules of C, with preprocessor directives as items of their own and common extensions of
compilers. The binding strength of operators is given by the numbers in `Binding`.
-/

namespace CodeMetrics.Grammar.C

open Rule

/-! ### Binding strength -/

namespace Binding

def parenDeclarator : Int := -10
def assignment : Int := -2
def conditional : Int := -1
def logicalOr : Int := 1
def logicalAnd : Int := 2
def inclusiveOr : Int := 3
def exclusiveOr : Int := 4
def bitwiseAnd : Int := 5
def equal : Int := 6
def relational : Int := 7
def offsetOf : Int := 8
def shift : Int := 9
def add : Int := 10
def multiply : Int := 11
def cast : Int := 12
def sizeOf : Int := 13
def unary : Int := 14
def call : Int := 15
def member : Int := 16
def subscript : Int := 17

end Binding

/-- The binary operators with their binding strengths. -/
def binaryOperators : List (String × Int) :=
  [("+", Binding.add), ("-", Binding.add), ("*", Binding.multiply), ("/", Binding.multiply),
    ("%", Binding.multiply), ("||", Binding.logicalOr), ("&&", Binding.logicalAnd),
    ("|", Binding.inclusiveOr), ("^", Binding.exclusiveOr), ("&", Binding.bitwiseAnd),
    ("==", Binding.equal), ("!=", Binding.equal), (">", Binding.relational),
    (">=", Binding.relational), ("<=", Binding.relational), ("<", Binding.relational),
    ("<<", Binding.shift), (">>", Binding.shift)]

/-- Binary expressions over an operand, one alternative for each operator. -/
def binaryAlternatives (operand : String) (operators : List (String × Int)) : List Rule :=
  operators.map fun (operator, strength) =>
    leftAt strength (all
      [field "left" (ref operand), field "operator" operator, field "right" (ref operand)])

/-- A token as a rule. -/
def directive (command : String) : Rule := token (CTokens.directive command)

/-! ### Conditional compilation -/

/-- The rules for regions of conditional compilation that hold parts of one sort. The rules of a
sort carry its suffix, and are shown without it. -/
def conditionalRules (suffix : String) (content : Rule) (strength : Int) :
    List (String × Definition) :=
  let part (base : String) : Rule :=
    if suffix.isEmpty then ref base else refAs (base ++ suffix) base
  let alternative : Rule :=
    field "alternative" (opt (any [part "preproc_else", part "preproc_elif", part "preproc_elifdef"]))
  let define (base : String) (parts : List Rule) : String × Definition :=
    (base ++ suffix, .rule (level strength (all parts)))
  [define "preproc_if"
      [directive "if", field "condition" (ref "_preproc_expression"), token CTokens.lineBreak,
        star content, alternative, directive "endif"],
    define "preproc_ifdef"
      [any [directive "ifdef", directive "ifndef"], field "name" (ref "identifier"),
        star content, alternative, directive "endif"],
    define "preproc_else" [directive "else", star content],
    define "preproc_elif"
      [directive "elif", field "condition" (ref "_preproc_expression"), token CTokens.lineBreak,
        star content, alternative],
    define "preproc_elifdef"
      [any [directive "elifdef", directive "elifndef"], field "name" (ref "identifier"),
        star content, alternative]]

/-! ### Items and directives -/

/-- The items that may stand at the top or in a block, given the rule for statements. -/
def itemAlternatives (statement : String) (oldStyle : List Rule) : List Rule :=
  [ref "function_definition"] ++ oldStyle ++
    [ref "linkage_specification", ref "declaration", ref statement, ref "attributed_statement",
      ref "type_definition", ref "_empty_declaration", ref "preproc_if", ref "preproc_ifdef",
      ref "preproc_include", ref "preproc_def", ref "preproc_function_def", ref "preproc_call"]

/-- Function definitions with the types of the parameters after the parameter list. -/
def oldStyleItem : List Rule := [refAs "_old_style_function_definition" "function_definition"]

/-- Items and directives. -/
def items : List (String × Definition) :=
  [("translation_unit", .rule (star (ref "_top_level_item"))),
    ("_top_level_item", .rule (any (itemAlternatives "_top_level_statement" oldStyleItem))),
    ("_block_item", .rule (any (itemAlternatives "statement" oldStyleItem))),
    ("preproc_include", .rule (all
      [directive "include",
        field "path" (any
          [ref "string_literal", ref "system_lib_string", ref "identifier",
            refAs "preproc_call_expression" "call_expression"]),
        token CTokens.lineEnd])),
    ("preproc_def", .rule (all
      [directive "define", field "name" (ref "identifier"), field "value" (opt (ref "preproc_arg")),
        token CTokens.lineEnd])),
    ("preproc_function_def", .rule (all
      [directive "define", field "name" (ref "identifier"), field "parameters" (ref "preproc_params"),
        field "value" (opt (ref "preproc_arg")), token CTokens.lineEnd])),
    ("preproc_params", .rule (all
      [token CTokens.macroParen, list (any [ref "identifier", "..."]), ")"])),
    ("preproc_call", .rule (all
      [field "directive" (ref "preproc_directive"), field "argument" (opt (ref "preproc_arg")),
        token CTokens.lineEnd]))] ++
  conditionalRules "" (ref "_block_item") 0 ++
  conditionalRules "_in_field_declaration_list" (ref "_field_declaration_list_item") 0 ++
  conditionalRules "_in_enumerator_list" (all [ref "enumerator", ","]) 0 ++
  conditionalRules "_in_enumerator_list_no_comma" (ref "enumerator") (-1) ++
  [("preproc_arg", .token CTokens.directiveArgument),
    ("preproc_directive", .token CTokens.anyDirective),
    ("_preproc_expression", .rule (any
      [ref "identifier", refAs "preproc_call_expression" "call_expression", ref "number_literal",
        ref "char_literal", ref "preproc_defined", refAs "preproc_unary_expression" "unary_expression",
        refAs "preproc_binary_expression" "binary_expression",
        refAs "preproc_parenthesized_expression" "parenthesized_expression"])),
    ("preproc_parenthesized_expression", .rule (all ["(", ref "_preproc_expression", ")"])),
    ("preproc_defined", .rule (any
      [level Binding.call (all ["defined", "(", ref "identifier", ")"]),
        all ["defined", ref "identifier"]])),
    ("preproc_unary_expression", .rule (leftAt Binding.unary (all
      [field "operator" (any ["!", "~", "-", "+"]), field "argument" (ref "_preproc_expression")]))),
    ("preproc_call_expression", .rule (level Binding.call (all
      [field "function" (ref "identifier"),
        field "arguments" (refAs "preproc_argument_list" "argument_list")]))),
    ("preproc_argument_list", .rule (all ["(", list (ref "_preproc_expression"), ")"])),
    ("preproc_binary_expression", .rule (any (binaryAlternatives "_preproc_expression" binaryOperators)))]

/-! ### Declarations -/

/-- The rules of a family of declarators, over its own nested declarator. -/
def parenthesized (inner : String) : Rule :=
  dynamic Binding.parenDeclarator (all ["(", opt (ref "ms_call_modifier"), ref inner, ")"])

/-- A declarator followed by attributes. -/
def attributed (inner : String) : Rule :=
  rightAt 0 (all [ref inner, plus (ref "attribute_declaration")])

/-- A pointer declarator. -/
def pointer (inner : String) : Rule :=
  dynamic 1 (rightAt 0 (all
    [opt (ref "ms_based_modifier"), "*", star (ref "ms_pointer_modifier"), star (ref "type_qualifier"),
      field "declarator" (ref inner)]))

/-- An array declarator. -/
def array (inner : Rule) : Rule :=
  level 1 (all
    [field "declarator" inner, "[", star (any [ref "type_qualifier", "static"]),
      field "size" (opt (any [ref "expression", "*"])), "]"])

/-- The words that give a number type its size and sign. -/
def sizeWords : Rule := any ["signed", "unsigned", "long", "short"]

/-- The base type of a sized number type. -/
def sizedBase : Rule :=
  field "type" (opt (any [dynamic (-1) (ref "_type_identifier"), ref "primitive_type"]))

/-- Declarations. -/
def declarations : List (String × Definition) :=
  [("function_definition", .rule (all
      [opt (ref "ms_call_modifier"), ref "_declaration_specifiers", opt (ref "ms_call_modifier"),
        field "declarator" (ref "_declarator"), field "body" (ref "compound_statement")])),
    ("_old_style_function_definition", .rule (all
      [opt (ref "ms_call_modifier"), ref "_declaration_specifiers",
        field "declarator" (refAs "_old_style_function_declarator" "function_declarator"),
        star (ref "declaration"), field "body" (ref "compound_statement")])),
    ("declaration", .rule (all
      [ref "_declaration_specifiers",
        list1 (field "declarator" (any
          [all
            [opt (ref "ms_call_modifier"), ref "_declaration_declarator",
              opt (ref "gnu_asm_expression")],
            ref "init_declarator"])),
        ";"])),
    ("type_definition", .rule (all
      [opt "__extension__", "typedef", ref "_type_definition_type", ref "_type_definition_declarators",
        star (ref "attribute_specifier"), ";"])),
    ("_type_definition_type", .rule (all
      [star (ref "type_qualifier"), field "type" (ref "type_specifier"), star (ref "type_qualifier")])),
    ("_type_definition_declarators", .rule (list1 (field "declarator" (ref "_type_declarator")))),
    ("_declaration_modifiers", .rule (any
      [ref "storage_class_specifier", ref "type_qualifier", ref "attribute_specifier",
        ref "attribute_declaration", ref "ms_declspec_modifier"])),
    ("_declaration_specifiers", .rule (rightAt 0 (all
      [star (ref "_declaration_modifiers"), field "type" (ref "type_specifier"),
        star (ref "_declaration_modifiers")]))),
    ("linkage_specification", .rule (all
      ["extern", field "value" (ref "string_literal"),
        field "body" (any [ref "function_definition", ref "declaration", ref "declaration_list"])])),
    ("attribute_specifier", .rule (all
      [any ["__attribute__", "__attribute"], "(", ref "argument_list", ")"])),
    ("attribute", .rule (all
      [opt (all [field "prefix" (ref "identifier"), "::"]), field "name" (ref "identifier"),
        opt (ref "argument_list")])),
    ("attribute_declaration", .rule (all
      ["[[", list1 (ref "attribute"), token CTokens.attributeEnd])),
    ("ms_declspec_modifier", .rule (all ["__declspec", "(", ref "identifier", ")"])),
    ("ms_based_modifier", .rule (all ["__based", ref "argument_list"])),
    ("ms_call_modifier", .rule (any
      ["__cdecl", "__clrcall", "__stdcall", "__fastcall", "__thiscall", "__vectorcall"])),
    ("ms_restrict_modifier", .rule "__restrict"),
    ("ms_unsigned_ptr_modifier", .rule "__uptr"),
    ("ms_signed_ptr_modifier", .rule "__sptr"),
    ("ms_unaligned_ptr_modifier", .rule (any ["_unaligned", "__unaligned"])),
    ("ms_pointer_modifier", .rule (any
      [ref "ms_unaligned_ptr_modifier", ref "ms_restrict_modifier", ref "ms_unsigned_ptr_modifier",
        ref "ms_signed_ptr_modifier"])),
    ("declaration_list", .rule (all ["\x7b", star (ref "_block_item"), "\x7d"])),
    ("_declarator", .rule (any
      [ref "attributed_declarator", ref "pointer_declarator", ref "function_declarator",
        ref "array_declarator", ref "parenthesized_declarator", ref "identifier"])),
    ("_declaration_declarator", .rule (any
      [ref "attributed_declarator", ref "pointer_declarator",
        refAs "_function_declaration_declarator" "function_declarator", ref "array_declarator",
        ref "parenthesized_declarator", ref "identifier"])),
    ("_field_declarator", .rule (any
      [refAs "attributed_field_declarator" "attributed_declarator",
        refAs "pointer_field_declarator" "pointer_declarator",
        refAs "function_field_declarator" "function_declarator",
        refAs "array_field_declarator" "array_declarator",
        refAs "parenthesized_field_declarator" "parenthesized_declarator", ref "_field_identifier"])),
    ("_type_declarator", .rule (any
      [refAs "attributed_type_declarator" "attributed_declarator",
        refAs "pointer_type_declarator" "pointer_declarator",
        refAs "function_type_declarator" "function_declarator",
        refAs "array_type_declarator" "array_declarator",
        refAs "parenthesized_type_declarator" "parenthesized_declarator", ref "_type_identifier",
        shown "primitive_type" true (any ["signed", "unsigned", "long", "short"]),
        ref "primitive_type"])),
    ("_abstract_declarator", .rule (any
      [ref "abstract_pointer_declarator", ref "abstract_function_declarator",
        ref "abstract_array_declarator", ref "abstract_parenthesized_declarator"])),
    ("parenthesized_declarator", .rule (parenthesized "_declarator")),
    ("parenthesized_field_declarator", .rule (parenthesized "_field_declarator")),
    ("parenthesized_type_declarator", .rule (parenthesized "_type_declarator")),
    ("abstract_parenthesized_declarator", .rule (level 1 (all
      ["(", opt (ref "ms_call_modifier"), ref "_abstract_declarator", ")"]))),
    ("attributed_declarator", .rule (attributed "_declarator")),
    ("attributed_field_declarator", .rule (attributed "_field_declarator")),
    ("attributed_type_declarator", .rule (attributed "_type_declarator")),
    ("pointer_declarator", .rule (pointer "_declarator")),
    ("pointer_field_declarator", .rule (pointer "_field_declarator")),
    ("pointer_type_declarator", .rule (pointer "_type_declarator")),
    ("abstract_pointer_declarator", .rule (dynamic 1 (rightAt 0 (all
      ["*", star (ref "ms_pointer_modifier"), star (ref "type_qualifier"),
        field "declarator" (opt (ref "_abstract_declarator"))])))),
    ("function_declarator", .rule (rightAt 1 (all
      [field "declarator" (ref "_declarator"), field "parameters" (ref "parameter_list"),
        opt (ref "gnu_asm_expression"),
        star (any
          [ref "attribute_specifier", ref "identifier",
            refAs "preproc_call_expression" "call_expression"])]))),
    ("_function_declaration_declarator", .rule (rightAt 1 (all
      [field "declarator" (ref "_declarator"), field "parameters" (ref "parameter_list"),
        opt (ref "gnu_asm_expression"), star (ref "attribute_specifier")]))),
    ("function_field_declarator", .rule (level 1 (all
      [field "declarator" (ref "_field_declarator"), field "parameters" (ref "parameter_list")]))),
    ("function_type_declarator", .rule (level 1 (all
      [field "declarator" (ref "_type_declarator"), field "parameters" (ref "parameter_list")]))),
    ("abstract_function_declarator", .rule (level 1 (all
      [field "declarator" (opt (ref "_abstract_declarator")),
        field "parameters" (ref "parameter_list")]))),
    ("_old_style_function_declarator", .rule (all
      [field "declarator" (ref "_declarator"),
        field "parameters" (refAs "_old_style_parameter_list" "parameter_list")])),
    ("array_declarator", .rule (array (ref "_declarator"))),
    ("array_field_declarator", .rule (array (ref "_field_declarator"))),
    ("array_type_declarator", .rule (array (ref "_type_declarator"))),
    ("abstract_array_declarator", .rule (array (opt (ref "_abstract_declarator")))),
    ("init_declarator", .rule (all
      [field "declarator" (ref "_declarator"), "=",
        field "value" (any [ref "initializer_list", ref "expression"])])),
    ("compound_statement", .rule (all ["\x7b", star (ref "_block_item"), "\x7d"])),
    ("storage_class_specifier", .rule (any
      ["extern", "static", "auto", "register", "inline", "__inline", "__inline__", "__forceinline",
        "thread_local", "__thread"])),
    ("type_qualifier", .rule (any
      ["const", "constexpr", "volatile", "restrict", "__restrict__", "__extension__", "_Atomic",
        "_Noreturn", "noreturn", "_Nonnull", ref "alignas_qualifier"])),
    ("alignas_qualifier", .rule (all
      [any ["alignas", "_Alignas"], "(", any [ref "expression", ref "type_descriptor"], ")"])),
    ("type_specifier", .rule (any
      [ref "struct_specifier", ref "union_specifier", ref "enum_specifier", ref "macro_type_specifier",
        ref "sized_type_specifier", ref "primitive_type", ref "_type_identifier"])),
    ("sized_type_specifier", .rule (any
      [all [star sizeWords, sizedBase, plus sizeWords],
        all [plus sizeWords, star (ref "type_qualifier"), sizedBase, star sizeWords]])),
    ("primitive_type", .token CTokens.primitiveType),
    ("enum_specifier", .rule (all
      ["enum",
        any
          [all
            [field "name" (ref "_type_identifier"),
              opt (all [":", field "underlying_type" (ref "primitive_type")]),
              field "body" (opt (ref "enumerator_list"))],
            field "body" (ref "enumerator_list")],
        opt (ref "attribute_specifier")])),
    ("enumerator_list", .rule (all
      ["\x7b",
        star (any
          [all [ref "enumerator", ","], refAs "preproc_if_in_enumerator_list" "preproc_if",
            refAs "preproc_ifdef_in_enumerator_list" "preproc_ifdef", all [ref "preproc_call", ","]]),
        opt (any
          [ref "enumerator", refAs "preproc_if_in_enumerator_list_no_comma" "preproc_if",
            refAs "preproc_ifdef_in_enumerator_list_no_comma" "preproc_ifdef", ref "preproc_call"]),
        "\x7d"])),
    ("struct_specifier", .rule (all
      ["struct", opt (ref "attribute_specifier"), opt (ref "ms_declspec_modifier"),
        any
          [all
            [field "name" (ref "_type_identifier"), field "body" (opt (ref "field_declaration_list"))],
            field "body" (ref "field_declaration_list")],
        opt (ref "attribute_specifier")])),
    ("union_specifier", .rule (all
      ["union", opt (ref "ms_declspec_modifier"),
        any
          [all
            [field "name" (ref "_type_identifier"), field "body" (opt (ref "field_declaration_list"))],
            field "body" (ref "field_declaration_list")],
        opt (ref "attribute_specifier")])),
    ("field_declaration_list", .rule (all
      ["\x7b", star (ref "_field_declaration_list_item"), "\x7d"])),
    ("_field_declaration_list_item", .rule (any
      [ref "field_declaration", ref "preproc_def", ref "preproc_function_def", ref "preproc_call",
        refAs "preproc_if_in_field_declaration_list" "preproc_if",
        refAs "preproc_ifdef_in_field_declaration_list" "preproc_ifdef"])),
    ("field_declaration", .rule (all
      [ref "_declaration_specifiers", opt (ref "_field_declaration_declarator"),
        opt (ref "attribute_specifier"), ";"])),
    ("_field_declaration_declarator", .rule (list1 (all
      [field "declarator" (ref "_field_declarator"), opt (ref "bitfield_clause")]))),
    ("bitfield_clause", .rule (all [":", ref "expression"])),
    ("enumerator", .rule (all
      [field "name" (ref "identifier"), opt (all ["=", field "value" (ref "expression")])])),
    ("variadic_parameter", .rule "..."),
    ("parameter_list", .rule (all
      ["(",
        any
          [list (any [ref "parameter_declaration", ref "variadic_parameter"]),
            ref "compound_statement"],
        ")"])),
    ("_old_style_parameter_list", .rule (all
      ["(", list (any [ref "identifier", ref "variadic_parameter"]), ")"])),
    ("parameter_declaration", .rule (all
      [ref "_declaration_specifiers",
        opt (field "declarator" (any [ref "_declarator", ref "_abstract_declarator"])),
        star (ref "attribute_specifier")]))]

/-! ### Statements -/

/-- The statements that may stand anywhere, given the rule for expression statements. -/
def simpleStatements (expressionStatement : Rule) : List Rule :=
  [ref "attributed_statement", ref "labeled_statement", ref "compound_statement", expressionStatement,
    ref "if_statement", ref "switch_statement", ref "do_statement", ref "while_statement",
    ref "for_statement", ref "return_statement", ref "break_statement", ref "continue_statement",
    ref "goto_statement"]

/-- An expression, or several with commas between them. -/
def commaExpression : Rule := any [ref "expression", ref "comma_expression"]

/-- Statements. -/
def statements : List (String × Definition) :=
  [("attributed_statement", .rule (all [plus (ref "attribute_declaration"), ref "statement"])),
    ("statement", .rule (any [ref "case_statement", ref "_non_case_statement"])),
    ("_non_case_statement", .rule (any
      (simpleStatements (ref "expression_statement") ++
        [ref "seh_try_statement", ref "seh_leave_statement"]))),
    ("_top_level_statement", .rule (any
      (ref "case_statement" ::
        simpleStatements (refAs "_top_level_expression_statement" "expression_statement")))),
    ("labeled_statement", .rule (all
      [field "label" (ref "_statement_identifier"), ":", any [ref "declaration", ref "statement"]])),
    ("_top_level_expression_statement", .rule (all [opt (ref "_expression_not_binary"), ";"])),
    ("expression_statement", .rule (all [opt commaExpression, ";"])),
    ("if_statement", .rule (rightAt 0 (all
      ["if", field "condition" (ref "parenthesized_expression"), field "consequence" (ref "statement"),
        field "alternative" (opt (ref "else_clause"))]))),
    ("else_clause", .rule (all ["else", ref "statement"])),
    ("switch_statement", .rule (all
      ["switch", field "condition" (ref "parenthesized_expression"),
        field "body" (ref "compound_statement")])),
    ("case_statement", .rule (rightAt 0 (all
      [any [all ["case", field "value" (ref "expression")], "default"], ":",
        star (any [ref "_non_case_statement", ref "declaration", ref "type_definition"])]))),
    ("while_statement", .rule (all
      ["while", field "condition" (ref "parenthesized_expression"), field "body" (ref "statement")])),
    ("do_statement", .rule (all
      ["do", field "body" (ref "statement"), "while",
        field "condition" (ref "parenthesized_expression"), ";"])),
    ("for_statement", .rule (all
      ["for", "(", ref "_for_statement_body", ")", field "body" (ref "statement")])),
    ("_for_statement_body", .rule (all
      [any
        [field "initializer" (ref "declaration"),
          all [field "initializer" (opt commaExpression), ";"]],
        field "condition" (opt commaExpression), ";", field "update" (opt commaExpression)])),
    ("return_statement", .rule (all ["return", opt commaExpression, ";"])),
    ("break_statement", .rule (all ["break", ";"])),
    ("continue_statement", .rule (all ["continue", ";"])),
    ("goto_statement", .rule (all ["goto", field "label" (ref "_statement_identifier"), ";"])),
    ("seh_try_statement", .rule (all
      ["__try", field "body" (ref "compound_statement"),
        any [ref "seh_except_clause", ref "seh_finally_clause"]])),
    ("seh_except_clause", .rule (all
      ["__except", field "filter" (ref "parenthesized_expression"),
        field "body" (ref "compound_statement")])),
    ("seh_finally_clause", .rule (all ["__finally", field "body" (ref "compound_statement")])),
    ("seh_leave_statement", .rule (all ["__leave", ";"]))]

/-! ### Expressions -/

/-- The kinds of expressions other than binary ones. -/
def expressionAlternatives : List Rule :=
  [ref "conditional_expression", ref "assignment_expression", ref "unary_expression",
    ref "update_expression", ref "cast_expression", ref "pointer_expression", ref "sizeof_expression",
    ref "alignof_expression", ref "offsetof_expression", ref "generic_expression",
    ref "subscript_expression", ref "call_expression", ref "field_expression",
    ref "compound_literal_expression", ref "identifier", ref "number_literal", ref "_string",
    ref "true", ref "false", ref "null", ref "char_literal", ref "parenthesized_expression",
    ref "gnu_asm_expression", ref "extension_expression"]

/-- The operators that assign. -/
def assignmentOperators : List Rule :=
  ["=", "*=", "/=", "%=", "+=", "-=", "<<=", ">>=", "&=", "^=", "|="]

/-- An operand of an assembly statement. -/
def asmOperand : Rule :=
  all
    [opt (all ["[", field "symbol" (ref "identifier"), "]"]), field "constraint" (ref "string_literal"),
      "(", field "value" (ref "expression"), ")"]

/-- An increment or a decrement, before or after its operand. -/
def updateExpression : Rule :=
  let argument := field "argument" (ref "expression")
  let operator := field "operator" (any ["--", "++"])
  rightAt Binding.unary (any [all [operator, argument], all [argument, operator]])

/-- Expressions. -/
def expressions : List (String × Definition) :=
  [("expression", .rule (any [ref "_expression_not_binary", ref "binary_expression"])),
    ("_expression_not_binary", .rule (any expressionAlternatives)),
    ("_string", .rule (leftAt 0 (any [ref "string_literal", ref "concatenated_string"]))),
    ("comma_expression", .rule (all
      [field "left" (ref "expression"), ",", field "right" commaExpression])),
    ("conditional_expression", .rule (rightAt Binding.conditional (all
      [field "condition" (ref "expression"), "?", opt (field "consequence" commaExpression), ":",
        field "alternative" (ref "expression")]))),
    ("_assignment_left_expression", .rule (any
      [ref "identifier", ref "call_expression", ref "field_expression", ref "pointer_expression",
        ref "subscript_expression", ref "parenthesized_expression"])),
    ("assignment_expression", .rule (rightAt Binding.assignment (all
      [field "left" (ref "_assignment_left_expression"), field "operator" (any assignmentOperators),
        field "right" (ref "expression")]))),
    ("pointer_expression", .rule (leftAt Binding.cast (all
      [field "operator" (any ["*", "&"]), field "argument" (ref "expression")]))),
    ("unary_expression", .rule (leftAt Binding.unary (all
      [field "operator" (any ["!", "~", "-", "+"]), field "argument" (ref "expression")]))),
    ("binary_expression", .rule (any (binaryAlternatives "expression" binaryOperators))),
    ("update_expression", .rule updateExpression),
    ("cast_expression", .rule (level Binding.cast (all
      ["(", field "type" (ref "type_descriptor"), ")", field "value" (ref "expression")]))),
    ("type_descriptor", .rule (all
      [star (ref "type_qualifier"), field "type" (ref "type_specifier"), star (ref "type_qualifier"),
        field "declarator" (opt (ref "_abstract_declarator"))])),
    ("sizeof_expression", .rule (level Binding.sizeOf (all
      ["sizeof",
        any
          [field "value" (ref "expression"),
            all ["(", field "type" (ref "type_descriptor"), ")"]]]))),
    ("alignof_expression", .rule (level Binding.sizeOf (all
      [any ["__alignof__", "__alignof", "_alignof", "alignof", "_Alignof"],
        all ["(", field "type" (ref "type_descriptor"), ")"]]))),
    ("offsetof_expression", .rule (level Binding.offsetOf (all
      ["offsetof",
        all
          ["(", field "type" (ref "type_descriptor"), ",", field "member" (ref "_field_identifier"),
            ")"]]))),
    ("generic_expression", .rule (level Binding.call (all
      ["_Generic", "(", ref "expression", ",",
        list1 (all [ref "type_descriptor", ":", ref "expression"]), ")"]))),
    ("subscript_expression", .rule (level Binding.subscript (all
      [field "argument" (ref "expression"), "[", field "index" (ref "expression"), "]"]))),
    ("call_expression", .rule (level Binding.call (all
      [field "function" (ref "expression"), field "arguments" (ref "argument_list")]))),
    ("gnu_asm_expression", .rule (level Binding.call (all
      [any ["asm", "__asm__", "__asm"], star (ref "gnu_asm_qualifier"), "(",
        field "assembly_code" (ref "_string"),
        opt (all
          [field "output_operands" (ref "gnu_asm_output_operand_list"),
            opt (all
              [field "input_operands" (ref "gnu_asm_input_operand_list"),
                opt (all
                  [field "clobbers" (ref "gnu_asm_clobber_list"),
                    opt (field "goto_labels" (ref "gnu_asm_goto_list"))])])]),
        ")"]))),
    ("gnu_asm_qualifier", .rule (any ["volatile", "__volatile__", "inline", "goto"])),
    ("gnu_asm_output_operand_list", .rule (all
      [":", list (field "operand" (ref "gnu_asm_output_operand"))])),
    ("gnu_asm_output_operand", .rule asmOperand),
    ("gnu_asm_input_operand_list", .rule (all
      [":", list (field "operand" (ref "gnu_asm_input_operand"))])),
    ("gnu_asm_input_operand", .rule asmOperand),
    ("gnu_asm_clobber_list", .rule (all [":", list (field "register" (ref "_string"))])),
    ("gnu_asm_goto_list", .rule (all [":", list (field "label" (ref "identifier"))])),
    ("extension_expression", .rule (all ["__extension__", ref "expression"])),
    ("argument_list", .rule (all
      ["(", list (any [ref "expression", ref "compound_statement"]), ")"])),
    ("field_expression", .rule (all
      [level Binding.member (all
        [field "argument" (ref "expression"), field "operator" (any [".", "->"])]),
        field "field" (ref "_field_identifier")])),
    ("compound_literal_expression", .rule (all
      ["(", field "type" (ref "type_descriptor"), ")", field "value" (ref "initializer_list")])),
    ("parenthesized_expression", .rule (all
      ["(", any [ref "expression", ref "comma_expression", ref "compound_statement"], ")"])),
    ("initializer_list", .rule (all
      ["\x7b", list (any [ref "initializer_pair", ref "expression", ref "initializer_list"]),
        opt ",", "\x7d"])),
    ("initializer_pair", .rule (any
      [all
        [field "designator" (plus (any
          [ref "subscript_designator", ref "field_designator", ref "subscript_range_designator"])),
          "=", field "value" (any [ref "expression", ref "initializer_list"])],
        all
          [field "designator" (ref "_field_identifier"), ":",
            field "value" (any [ref "expression", ref "initializer_list"])]])),
    ("subscript_designator", .rule (all ["[", ref "expression", "]"])),
    ("subscript_range_designator", .rule (all
      ["[", field "start" (ref "expression"), "...", field "end" (ref "expression"), "]"])),
    ("field_designator", .rule (all [".", ref "_field_identifier"]))]

/-! ### Literals and names -/

/-- Literals and names. -/
def literals : List (String × Definition) :=
  [("number_literal", .token CTokens.number),
    ("char_literal", .rule (all
      [any ["L'", "u'", "U'", "u8'", "'"],
        plus (any [ref "escape_sequence", token CTokens.character]), "'"])),
    ("concatenated_string", .rule (rightAt 0 (all
      [any
        [all [ref "identifier", ref "string_literal"], all [ref "string_literal", ref "string_literal"],
          all [ref "string_literal", ref "identifier"]],
        star (any [ref "string_literal", ref "identifier"])]))),
    ("string_literal", .rule (all
      [any ["L\"", "u\"", "U\"", "u8\"", "\""],
        star (any [token CTokens.stringContent, ref "escape_sequence"]), "\""])),
    ("escape_sequence", .token CTokens.escapeSequence),
    ("system_lib_string", .token CTokens.systemHeader),
    ("true", .token CTokens.trueConstant),
    ("false", .token CTokens.falseConstant),
    ("null", .rule (any ["NULL", "nullptr"])),
    ("identifier", .token CTokens.identifier),
    ("_type_identifier", .rule (refAs "identifier" "type_identifier")),
    ("_field_identifier", .rule (refAs "identifier" "field_identifier")),
    ("_statement_identifier", .rule (refAs "identifier" "statement_identifier")),
    ("_empty_declaration", .rule (all [ref "type_specifier", ";"])),
    ("macro_type_specifier", .rule (dynamic (-1) (all
      [field "name" (ref "identifier"), "(", field "type" (ref "type_descriptor"), ")"]))),
    ("comment", .token CTokens.comment)]

/-- The commands that have rules of their own. -/
def commands : List String :=
  ["include", "define", "if", "ifdef", "ifndef", "endif", "else", "elif", "elifdef", "elifndef"]

/-- Tokens that would be read in place of others: a longer operator in place of a shorter one after
which the rest may come as well, a signed number in place of an operator, a quoted text with its
mark in place of an identifier, and one directive in place of another. -/
def rivals : List (String × List String) :=
  [("--", ["-"]), ("++", ["+"]), ("&&", ["&"]), ("number_literal", ["-", "+"]), ("(", ["("]),
    ("#ifdef", ["#if"]), ("#ifndef", ["#if"]), ("#elifdef", ["#elif"]), ("#elifndef", ["#elif"]),
    ("preproc_directive", (commands.filter (· != "endif")).map ("#" ++ ·))] ++
    (commands.map fun c => ("#" ++ c, ["preproc_directive"])) ++
    ["L", "u", "U", "u8"].flatMap fun mark =>
      [(mark ++ "'", ["identifier"]), (mark ++ "\"", ["identifier"])]

/-- **The grammar of C.** -/
def grammar : Grammar where
  definitions := items ++ declarations ++ statements ++ expressions ++ literals
  extras := ["comment"]
  inlined :=
    ["_type_identifier", "_field_identifier", "_statement_identifier", "_non_case_statement",
      "_assignment_left_expression", "_expression_not_binary"]
  supertypes :=
    ["expression", "statement", "type_specifier", "_declarator", "_field_declarator",
      "_type_declarator", "_abstract_declarator"]
  word := "identifier"
  scanned := []
  orderings := []
  rivals := rivals

end CodeMetrics.Grammar.C
