import CodeMetrics.Parsing.Source

/-!
# Raw strings

The two tokens of a raw string that no pattern describes. The delimiter is the text up to the
opening parenthesis, at most sixteen characters with no blank and no backslash among them. The
content ends before the first closing parenthesis that is followed by the delimiter and a double
quote, or with the text.
-/

namespace CodeMetrics.Parsing.RawString

/-- The most characters of a delimiter. -/
def maxDelimiter : Nat := 16

/-- The characters of the delimiter that begins at a place. -/
def openingDelimiter? (source : Source) : Nat → Nat → List Char → Option (List Char)
  | 0, _, _ => none
  | fuel + 1, place, read =>
    match source.chars[place]? with
    | none => none
    | some c =>
      if read.length ≥ maxDelimiter || c == '\\' || c.isWhitespace || c == '\x0b' || c == '\x0c' then none
      else if c == '(' then if read.isEmpty then none else some read.reverse
      else openingDelimiter? source fuel (place + 1) (c :: read)

/-- Whether a list of characters stands at a place. -/
def standsAt (source : Source) : List Char → Nat → Bool
  | [], _ => true
  | c :: cs, place => source.chars[place]? == some c && standsAt source cs (place + 1)

/-- A delimiter at a place, with the place after it and the delimiter that is open from then on. -/
def delimiter? (source : Source) (place : Nat) (current : List Char) :
    Option (Nat × List Char) :=
  if current.isEmpty then
    (openingDelimiter? source (maxDelimiter + 2) place []).map fun d => (place + d.length, d)
  else if standsAt source current place then some (place + current.length, [])
  else none

/-- The end of the content that begins at a place. -/
def contentEnd (source : Source) (delimiter : List Char) : Nat → Nat → Nat
  | 0, place => place
  | fuel + 1, place =>
    match source.chars[place]? with
    | none => place
    | some c =>
      if c == ')' && standsAt source (delimiter ++ ['"']) (place + 1) then place
      else contentEnd source delimiter fuel (place + 1)

end CodeMetrics.Parsing.RawString
