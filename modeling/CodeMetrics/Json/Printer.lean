import CodeMetrics.Json

/-!
# Writing JSON

`Json.compact` writes a value on one line, `Json.pretty` one element or member to a line, indented
by two spaces a level. In strings only the double quote, the backslash and control characters are
escaped.
-/

namespace CodeMetrics.Json

/-- The hexadecimal digit of a number below sixteen, in lower case. -/
def hexDigit (n : Nat) : Char := Nat.digitChar n

/-- How a character is written in a string. -/
def escapeChar (c : Char) : List Char :=
  if c = '"' then ['\\', '"']
  else if c = '\\' then ['\\', '\\']
  else if c = '\x08' then ['\\', 'b']
  else if c = '\t' then ['\\', 't']
  else if c = '\n' then ['\\', 'n']
  else if c = '\x0c' then ['\\', 'f']
  else if c = '\r' then ['\\', 'r']
  else if c.toNat < 0x20 then
    ['\\', 'u', '0', '0', hexDigit (c.toNat / 16), hexDigit (c.toNat % 16)]
  else [c]

/-- A string between double quotes. -/
def quote (s : String) : List Char := '"' :: s.toList.flatMap escapeChar ++ ['"']

/-- The digits of a natural number. -/
def digits (n : Nat) : List Char := Nat.toDigits 10 n

/-- The text of a truth value. -/
def boolText : Bool → List Char
  | true => "true".toList
  | false => "false".toList

mutual

/-- A value on one line, in front of `tail`. -/
def compactWith : Json → List Char → List Char
  | .null, tail => "null".toList ++ tail
  | .bool b, tail => boolText b ++ tail
  | .nat n, tail => digits n ++ tail
  | .number text, tail => text.toList ++ tail
  | .str s, tail => quote s ++ tail
  | .arr es, tail => '[' :: compactElements es true (']' :: tail)
  | .obj ms, tail => '{' :: compactMembers ms true ('}' :: tail)

/-- Elements with commas between them, in front of `tail`. -/
def compactElements : List Json → Bool → List Char → List Char
  | [], _, tail => tail
  | e :: es, first, tail =>
    let written := compactWith e (compactElements es false tail)
    if first then written else ',' :: written

/-- Members with commas between them, in front of `tail`. -/
def compactMembers : List (String × Json) → Bool → List Char → List Char
  | [], _, tail => tail
  | (name, v) :: ms, first, tail =>
    let written := quote name ++ ':' :: compactWith v (compactMembers ms false tail)
    if first then written else ',' :: written

end

/-- A value on one line. -/
def compact (v : Json) : String := String.ofList (compactWith v [])

/-- The beginning of a line at a level of indentation. -/
def lineStart (level : Nat) : List Char := '\n' :: List.replicate (2 * level) ' '

mutual

/-- A value over several lines, in front of `tail`; `level` is the indentation of its line. -/
def prettyWith (level : Nat) : Json → List Char → List Char
  | .null, tail => "null".toList ++ tail
  | .bool b, tail => boolText b ++ tail
  | .nat n, tail => digits n ++ tail
  | .number text, tail => text.toList ++ tail
  | .str s, tail => quote s ++ tail
  | .arr [], tail => '[' :: ']' :: tail
  | .arr (e :: es), tail =>
    '[' :: (lineStart (level + 1) ++
      prettyWith (level + 1) e (prettyElements (level + 1) es (lineStart level ++ ']' :: tail)))
  | .obj [], tail => '{' :: '}' :: tail
  | .obj ((name, v) :: ms), tail =>
    '{' :: (lineStart (level + 1) ++ quote name ++ ':' :: ' ' ::
      prettyWith (level + 1) v (prettyMembers (level + 1) ms (lineStart level ++ '}' :: tail)))

/-- The elements after the first, each on a line of its own, in front of `tail`. -/
def prettyElements (level : Nat) : List Json → List Char → List Char
  | [], tail => tail
  | e :: es, tail =>
    ',' :: (lineStart level ++ prettyWith level e (prettyElements level es tail))

/-- The members after the first, each on a line of its own, in front of `tail`. -/
def prettyMembers (level : Nat) : List (String × Json) → List Char → List Char
  | [], tail => tail
  | (name, v) :: ms, tail =>
    ',' :: (lineStart level ++ quote name ++ ':' :: ' ' ::
      prettyWith level v (prettyMembers level ms tail))

end

/-- A value over several lines. -/
def pretty (v : Json) : String := String.ofList (prettyWith 0 v [])

end CodeMetrics.Json
