/-!
# Whitespace

The characters with the Unicode property `White_Space`, and the operations on text that depend on
it: trimming, cutting into words, and joining the words again with single spaces.
-/

namespace CodeMetrics.Text

/-- The ranges of code points with the property `White_Space`. -/
def whitespaceRanges : List (Nat × Nat) :=
  [(0x9, 0xD), (0x20, 0x20), (0x85, 0x85), (0xA0, 0xA0), (0x1680, 0x1680), (0x2000, 0x200A),
    (0x2028, 0x2029), (0x202F, 0x202F), (0x205F, 0x205F), (0x3000, 0x3000)]

/-- Whether a character is white space. -/
def isBlank (c : Char) : Bool :=
  whitespaceRanges.any fun r => r.1 ≤ c.toNat && c.toNat ≤ r.2

/-- Drops the blanks at the front. -/
def trimStart (cs : List Char) : List Char := cs.dropWhile isBlank

/-- Drops the blanks at the back. -/
def trimEnd (cs : List Char) : List Char := (cs.reverse.dropWhile isBlank).reverse

/-- Drops the blanks at both ends. -/
def trim (cs : List Char) : List Char := trimEnd (trimStart cs)

/-- The maximal runs of non-blank characters; `run` holds the current one, last character
first. -/
def wordsFrom (run : List Char) : List Char → List (List Char)
  | [] => if run.isEmpty then [] else [run.reverse]
  | c :: cs =>
    if isBlank c then
      if run.isEmpty then wordsFrom [] cs else run.reverse :: wordsFrom [] cs
    else wordsFrom (c :: run) cs

/-- The maximal runs of non-blank characters. -/
def words (cs : List Char) : List (List Char) := wordsFrom [] cs

/-- The words of a text with one space between them. -/
def collapse (s : String) : String :=
  String.ofList ((words s.toList).intersperse [' ']).flatten

end CodeMetrics.Text
