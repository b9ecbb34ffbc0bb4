import CodeMetrics.Grammar.IdentifierChars

/-!
# Token patterns and their positions

A token of a grammar is described by a `Pattern`, a regular expression over characters. For
matching, a pattern is unfolded into its *positions*: the occurrences of a character class in it.
A match is a walk along positions; `Positions` lists where a walk may begin, which positions may
follow which, and where it may end.
-/

namespace CodeMetrics.Grammar

/-- A set of characters. -/
inductive CharClass where
  | range (lo hi : Char)
  /-- The characters that may begin an identifier. -/
  | identifierStart
  /-- The characters that may continue an identifier. -/
  | identifierContinue
  | union (a b : CharClass)
  | complement (a : CharClass)

namespace CharClass

/-- Whether a character belongs to the class. -/
def contains : CharClass → Char → Bool
  | range lo hi, c => lo ≤ c && c ≤ hi
  | identifierStart, c => IdentifierChars.isStart c
  | identifierContinue, c => IdentifierChars.isContinue c
  | union a b, c => a.contains c || b.contains c
  | complement a, c => !a.contains c

/-- The class of one character. -/
def only (c : Char) : CharClass := range c c

/-- The class with no character. -/
def none : CharClass := range 'b' 'a'

/-- The characters of a text. -/
def oneOf (s : String) : CharClass :=
  match s.toList with
  | [] => none
  | c :: cs => cs.foldl (fun acc d => union acc (only d)) (only c)

/-- All characters but those of a text. -/
def noneOf (s : String) : CharClass := complement (oneOf s)

/-- Decimal digits. -/
def digit : CharClass := range '0' '9'

/-- Hexadecimal digits. -/
def hexDigit : CharClass := union digit (union (range 'a' 'f') (range 'A' 'F'))

/-- Letters of the ASCII alphabet. -/
def letter : CharClass := union (range 'a' 'z') (range 'A' 'Z')

/-- Letters, digits and the underscore. -/
def word : CharClass := union letter (union digit (only '_'))

/-- Blank characters between tokens. -/
def space : CharClass := oneOf "\t\n\x0b\x0c\r "

end CharClass

/-- A regular expression over characters. -/
inductive Pattern where
  | empty
  | chars (c : CharClass)
  | seq (a b : Pattern)
  | alt (a b : Pattern)
  /-- Any number of repetitions. -/
  | star (a : Pattern)
  /-- At least one repetition. -/
  | plus (a : Pattern)

namespace Pattern

/-- The pattern of a fixed text. -/
def text (s : String) : Pattern :=
  match s.toList with
  | [] => empty
  | c :: cs => cs.foldl (fun acc d => seq acc (chars (.only d))) (chars (.only c))

/-- Patterns one after another. -/
def all : List Pattern → Pattern
  | [] => empty
  | [p] => p
  | p :: ps => seq p (all ps)

/-- One of several patterns. -/
def any : List Pattern → Pattern
  | [] => chars .none
  | [p] => p
  | p :: ps => alt p (any ps)

/-- The pattern or nothing. -/
def opt (p : Pattern) : Pattern := alt p empty

/-- Between `least` and `least + more` repetitions. -/
def times (p : Pattern) (least more : Nat) : Pattern :=
  all (List.replicate least p ++ List.replicate more (opt p))

end Pattern

/-- The positions of a pattern: `first` and `last` are where a match may begin and end,
`links` the pairs of a position and those that may come right after it. -/
structure Positions where
  classes : Array CharClass
  nullable : Bool
  first : List Nat
  last : List Nat
  links : List (Nat × List Nat)

namespace Positions

/-- The positions of a pattern, numbered from `base`. -/
def ofPattern : Pattern → Nat → Positions
  | .empty, _ => ⟨#[], true, [], [], []⟩
  | .chars c, base => ⟨#[c], false, [base], [base], []⟩
  | .seq a b, base =>
    let p := ofPattern a base
    let q := ofPattern b (base + p.classes.size)
    { classes := p.classes ++ q.classes
      nullable := p.nullable && q.nullable
      first := if p.nullable then p.first ++ q.first else p.first
      last := if q.nullable then p.last ++ q.last else q.last
      links := p.links ++ q.links ++ p.last.map fun i => (i, q.first) }
  | .alt a b, base =>
    let p := ofPattern a base
    let q := ofPattern b (base + p.classes.size)
    { classes := p.classes ++ q.classes
      nullable := p.nullable || q.nullable
      first := p.first ++ q.first
      last := p.last ++ q.last
      links := p.links ++ q.links }
  | .star a, base =>
    let p := ofPattern a base
    { p with nullable := true, links := p.links ++ p.last.map fun i => (i, p.first) }
  | .plus a, base =>
    let p := ofPattern a base
    { p with links := p.links ++ p.last.map fun i => (i, p.first) }

end Positions

end CodeMetrics.Grammar
