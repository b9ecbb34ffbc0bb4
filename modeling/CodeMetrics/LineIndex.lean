import CodeMetrics.Span
import CodeMetrics.Text.Whitespace

/-!
# Line index

Which lines of a text hold code, and which hold a comment. Lines are counted from one.

* `LineIndex.ofText` – the index of a text with comments at given spans;
* `LineIndex.realBetween` – the number of code lines in a range of lines.
-/

namespace CodeMetrics

/-- The lines of a text: for each whether it holds code, and the numbers of those that hold a
comment, in increasing order. -/
structure LineIndex where
  code : List Bool
  commentLines : List Nat
  deriving DecidableEq, Inhabited

namespace LineIndex

/-- The number of lines. -/
def totalLines (l : LineIndex) : Nat := l.code.length

/-- The number of lines that hold a comment. -/
def commentCount (l : LineIndex) : Nat := l.commentLines.length

/-- The number of lines that hold code. -/
def realLines (l : LineIndex) : Nat := l.code.countP id

/-- **The number of code lines from `first` to `last`**, both included; none when there is no
such line. -/
def realBetween (l : LineIndex) (first last : Nat) : Nat :=
  if first = 0 || first > last then 0
  else ((l.code.take last).drop (first - 1)).countP id

/-! ### Sets of line numbers -/

/-- Adds a number to an increasing list, unless it is there. -/
def insertLine (n : Nat) : List Nat → List Nat
  | [] => [n]
  | m :: ms =>
    if n < m then n :: m :: ms
    else if n = m then m :: ms
    else m :: insertLine n ms

/-- The increasing list of the numbers in a list. -/
def lineSet (ns : List Nat) : List Nat := ns.foldr insertLine []

/-- The numbers from `first` to `last`. -/
def linesFromTo (first last : Nat) : List Nat := (List.range (last + 1 - first)).map (first + ·)

/-! ### The index of a text -/

/-- Whether a byte offset lies in one of the comments. -/
def inComment (comments : List Span) (offset : Nat) : Bool :=
  comments.any fun s => s.start ≤ offset && offset < s.stop

/-- Replaces the characters inside comments by spaces, line ends excepted; `offset` is the byte
offset of the first character. -/
def blankComments (comments : List Span) : Nat → List Char → List Char
  | _, [] => []
  | offset, c :: cs =>
    (if c ≠ '\n' && c ≠ '\r' && inComment comments offset then ' ' else c) ::
      blankComments comments (offset + c.utf8Size) cs

/-- The lines of a text; `line` holds the current one, last character first. A line break at the
very end begins no further line. -/
def linesFrom (line : List Char) : List Char → List (List Char)
  | [] => if line.isEmpty then [] else [line.reverse]
  | c :: cs => if c = '\n' then line.reverse :: linesFrom [] cs else linesFrom (c :: line) cs

/-- The lines of a text. -/
def lines (cs : List Char) : List (List Char) := linesFrom [] cs

/-- Whether a line holds anything but blanks. -/
def hasText (line : List Char) : Bool := line.any fun c => !Text.isBlank c

/-- **The index of a text with comments at given spans.** A line holds code when something other
than blanks is left on it outside of comments. -/
def ofText (text : String) (comments : List Span) : LineIndex where
  code := (lines (blankComments comments 0 text.toList)).map hasText
  commentLines := lineSet (comments.flatMap fun s => linesFromTo s.startLine s.endLine)

end LineIndex

end CodeMetrics
