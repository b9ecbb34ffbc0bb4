import CodeMetrics.Grammar.CTokens

/-!
# Tokens of C++

The tokens of C++ that C does not have, or has in another form.
-/

namespace CodeMetrics.Grammar.CppTokens

open Pattern CTokens

/-- The end of a list of template parameters or arguments. It is taken in preference to longer
operators that begin in the same way. -/
def templateEnd : Token where
  name := "template end"
  visible := false
  rank := 1
  preference := 2
  pattern := text ">"

/-- The zero of a pure virtual method. -/
def pureZero : Token where
  name := "pure zero"
  visible := false
  pattern := text "0"

/-- A user's suffix right after a literal. -/
def literalSuffix : Token where
  name := "literal_suffix"
  named := true
  immediate := true
  preference := 1
  contextual := true
  pattern := seq (chars (.union .letter (.only '_'))) (star (chars .word))

/-- A placeholder for a type. -/
def autoType : Token := wordsToken "auto" ["auto"]

/-- The object a method is called on. -/
def thisObject : Token := wordsToken "this" ["this"]

/-- The mark around the text of a raw string. -/
def rawDelimiter : Token where
  name := "raw_string_delimiter"
  named := true
  scanned := true

/-- The text of a raw string. -/
def rawContent : Token where
  name := "raw_string_content"
  named := true
  scanned := true

/-- A number. -/
def number : Token where
  name := "number_literal"
  named := true
  pattern :=
    let sign := opt (among "-+")
    let binaryDigits := grouped (among "01")
    let decimals := grouped (chars .digit)
    let separated := star (seq (text "'") (plus (chars .digit)))
    let wholeDecimals := all [chars (.range '1' '9'), star (chars .digit), separated]
    let hexDigits := grouped (chars .hexDigit)
    let octalDigits :=
      all [text "0", star (chars (.range '0' '7')), star (seq (text "'") (plus (chars (.range '0' '7'))))]
    let hexExponent := all [among "pP", sign, decimals]
    let exponent := all [among "eE", sign, decimals]
    let long := any [text "ll", text "LL"]
    let wholeSuffix := any
      [seq long (opt (among "uU")), seq (among "uU") (opt long), seq (among "uU") (opt (among "lL")),
        seq (among "uU") (opt (among "zZ")), seq (among "lL") (opt (among "uU")),
        seq (among "zZ") (opt (among "uU"))]
    let floatSuffix := any
      [seq (among "fF") (opt (any [text "16", text "32", text "64", text "128"])), among "lL",
        text "bf16", text "BF16"]
    let hexMark := any [text "0x", text "0X"]
    seq sign
      (any
        [seq
          (any
            [seq (any [text "0b", text "0B"]) binaryDigits, wholeDecimals, seq hexMark hexDigits,
              octalDigits])
          (opt wholeSuffix),
          seq
            (any
              [seq decimals exponent,
                all [decimals, text ".", opt decimals, opt exponent],
                all [text ".", decimals, opt exponent]])
            (opt floatSuffix),
          all
            [hexMark,
              any [hexDigits, all [hexDigits, text ".", opt hexDigits], seq (text ".") hexDigits],
              hexExponent, opt floatSuffix]])

end CodeMetrics.Grammar.CppTokens
