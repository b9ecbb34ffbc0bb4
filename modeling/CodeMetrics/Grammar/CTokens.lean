import CodeMetrics.Grammar.Rule

/-!
# Tokens of C

The tokens that are not fixed texts: numbers, the parts of strings, directives, comments, and the
words that name primitive types and constants.
-/

namespace CodeMetrics.Grammar.CTokens

open Pattern

/-- Any character but those given. -/
def except (s : String) : Pattern := chars (.noneOf s)

/-- One of the characters given. -/
def among (s : String) : Pattern := chars (.oneOf s)

/-- A token that names one of several reserved words. -/
def wordsToken (name : String) (words : List String) : Token where
  name
  named := true
  words
  pattern := any (words.map text)

/-- The beginning of a directive: a number sign, blanks, and a command. -/
def directive (command : String) : Token where
  name := "#" ++ command
  pattern := all [text "#", star (among " \t"), text command]

/-- The end of a directive's line. -/
def lineEnd : Token where
  name := "line end"
  visible := false
  immediate := true
  preference := 1
  contextual := true
  pattern := all [opt (text "\r"), text "\n"]

/-- A line break where blanks are not enough. -/
def lineBreak : Token := { Token.literal "\n" with contextual := true }

/-- A fixed text that is only looked for where it is acceptable, since it begins with another
token. -/
def joined (s : String) : Token := { Token.literal s with contextual := true }

/-- The end of an attribute. -/
def attributeEnd : Token := joined "]]"

/-- An opening parenthesis right after the name of a macro. -/
def macroParen : Token := { Token.literal "(" with immediate := true, preference := 3 }

/-- The text of a directive up to the end of its line or a comment; a backslash continues the
line. -/
def directiveArgument : Token where
  name := "preproc_arg"
  named := true
  rank := -1
  contextual := true
  pattern := all
    [chars (.complement .space),
      star (any [except "/\n", all [text "/", except "*"], all [text "\\", opt (text "\r"), text "\n"]])]

/-- The beginning of any directive. -/
def anyDirective : Token where
  name := "preproc_directive"
  named := true
  pattern := all
    [text "#", star (among " \t"), chars (.union .letter .digit), star (chars .word)]

/-- An identifier. -/
def identifier : Token where
  name := "identifier"
  named := true
  pattern :=
    let escape := any
      [all [text "\\u", times (chars .hexDigit) 4 0], all [text "\\U", times (chars .hexDigit) 8 0]]
    seq (any [chars .identifierStart, among "$_", escape])
      (star (any [chars .identifierContinue, among "$", escape]))

/-- Digits with single quotes between groups. -/
def grouped (digit : Pattern) : Pattern := seq (plus digit) (star (seq (text "'") (plus digit)))

/-- A number. -/
def number : Token where
  name := "number_literal"
  named := true
  pattern :=
    let hexDigits := grouped (chars .hexDigit)
    let decimals := grouped (chars .digit)
    all
      [opt (among "-+"),
        opt (any [all [text "0", among "xX"], all [text "0", among "bB"]]),
        any
          [all
            [any
              [decimals, all [text "0", among "bB", decimals], all [text "0", among "xX", hexDigits]],
              opt (all [text ".", opt hexDigits])],
            all [text ".", decimals]],
        opt (all [among "eEpP", opt (all [opt (among "-+"), hexDigits])]),
        star (among "uUlLwWfFbBdD")]

/-- One character of a character literal. -/
def character : Token where
  name := "character"
  named := true
  immediate := true
  preference := 1
  contextual := true
  pattern := except "\n'"

/-- The plain text of a string. -/
def stringContent : Token where
  name := "string_content"
  named := true
  immediate := true
  rank := 1
  preference := 1
  contextual := true
  pattern := plus (except "\\\"\n")

/-- An escape sequence. -/
def escapeSequence : Token where
  name := "escape_sequence"
  named := true
  rank := 1
  contextual := true
  pattern := seq (text "\\")
    (any
      [except "xuU",
        times (chars .digit) 2 1,
        seq (text "x") (times (chars .hexDigit) 1 3),
        seq (text "u") (times (chars .hexDigit) 4 0),
        seq (text "U") (times (chars .hexDigit) 8 0)])

/-- The name of a system header. -/
def systemHeader : Token where
  name := "system_lib_string"
  named := true
  contextual := true
  pattern := all [text "<", star (any [except ">\n", text "\\>"]), text ">"]

/-- A comment to the end of the line, or between marks. -/
def comment : Token where
  name := "comment"
  named := true
  pattern :=
    let noMark := star (except "*")
    any
      [seq (text "//")
        (star (any
          [seq (plus (text "\\")) (any [except "\n", seq (opt (text "\r")) (text "\n")]),
            except "\\\n"])),
        all
          [text "/*", noMark, plus (text "*"),
            star (all [except "/*", noMark, plus (text "*")]), text "/"]]

/-- The names of primitive types. -/
def primitiveType : Token :=
  wordsToken "primitive_type"
    (["bool", "char", "int", "float", "double", "void", "size_t", "ssize_t", "ptrdiff_t", "intptr_t",
        "uintptr_t", "charptr_t", "nullptr_t", "max_align_t"] ++
      ["int8_t", "int16_t", "int32_t", "int64_t", "uint8_t", "uint16_t", "uint32_t", "uint64_t",
        "char8_t", "char16_t", "char32_t", "char64_t"])

/-- The constant for truth. -/
def trueConstant : Token := wordsToken "true" ["TRUE", "true"]

/-- The constant for falsehood. -/
def falseConstant : Token := wordsToken "false" ["FALSE", "false"]

end CodeMetrics.Grammar.CTokens
