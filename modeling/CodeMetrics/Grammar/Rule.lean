import CodeMetrics.Grammar.Pattern
import CodeMetrics.Total

/-!
# Grammar rules

A grammar is data: named rules over tokens and other rules. Besides sequence, choice and
repetition a rule may

* name the `field` that a part fills in its parent,
* show a part under another name (`shown`),
* give a precedence and an associativity, which settle conflicts when the parser is built, and
* give a `dynamic` precedence, which settles an ambiguity between finished trees.

Rules whose name begins with an underscore are hidden: their parts appear in the tree as parts of
the enclosing node.
-/

namespace CodeMetrics

namespace Grammar

/-- How operators of one precedence group. -/
inductive Assoc where
  | left
  | right
  deriving DecidableEq

/-- A token of a grammar. -/
structure Token where
  /-- The name under which the token appears in a tree. -/
  name : String
  /-- Whether the token is a node of its own rather than punctuation. -/
  named : Bool := false
  /-- Whether the token appears in the tree at all. -/
  visible : Bool := true
  /-- Whether no blank may stand before the token. -/
  immediate : Bool := false
  /-- Of two tokens that match, the one of higher rank is taken, even when it is shorter. -/
  rank : Int := 0
  /-- Between tokens of one rank and length, the one of higher preference is taken. -/
  preference : Nat := 0
  /-- Whether the token is only meaningful in its place, so that it is not looked for while the
  parser searches for a place to resume. -/
  contextual : Bool := false
  /-- The words the token stands for, when it is a reserved word. -/
  words : List String := []
  /-- Whether the token is scanned by a rule of its own, not by a pattern. -/
  scanned : Bool := false
  pattern : Pattern := .empty

namespace Token

/-- What distinguishes a token from the others of its grammar. -/
def key (t : Token) : String :=
  t.name ++ (if t.immediate then "\x00immediate" else "") ++
    (if t.rank = 0 then "" else "\x00ranked") ++ (if t.visible then "" else "\x00hidden")

/-- Whether a text could be read as an identifier. -/
def isWord (s : String) : Bool :=
  match s.toList with
  | [] => false
  | c :: cs => (c.isAlpha || c == '_') && cs.all fun d => d.isAlphanum || d == '_'

/-- The token of a fixed text. -/
def literal (s : String) : Token where
  name := s
  preference := 2
  words := if isWord s then [s] else []
  pattern := .text s

end Token

/-- A rule of a grammar. -/
inductive Rule where
  | empty
  | token (t : Token)
  | ref (name : String)
  | seq (a b : Rule)
  | alt (a b : Rule)
  /-- At least one repetition. -/
  | plus (r : Rule)
  | field (name : String) (r : Rule)
  /-- The part under another name. -/
  | shown (name : String) (named : Bool) (r : Rule)
  | prec (level : Int) (assoc : Option Assoc) (r : Rule)
  | dynamic (level : Int) (r : Rule)

namespace Rule

instance : Coe String Rule := ⟨fun s => .token (.literal s)⟩

/-- The rule of a fixed text. -/
def lit (s : String) : Rule := .token (.literal s)

/-- Parts one after another. -/
def all (rs : List Rule) : Rule := rs.foldl seq empty

/-- One of several parts. -/
def any : List Rule → Rule
  | [] => empty
  | [r] => r
  | r :: rs => alt r (any rs)

/-- The part or nothing. -/
def opt (r : Rule) : Rule := alt r empty

/-- Any number of repetitions. -/
def star (r : Rule) : Rule := alt (plus r) empty

/-- One or more parts with commas between them. -/
def list1 (r : Rule) : Rule := all [r, star (all [",", r])]

/-- Any number of parts with commas between them. -/
def list (r : Rule) : Rule := opt (list1 r)

/-- A precedence without an associativity. -/
def level (n : Int) (r : Rule) : Rule := prec n none r

/-- A precedence that groups to the left. -/
def leftAt (n : Int) (r : Rule) : Rule := prec n (some .left) r

/-- A precedence that groups to the right. -/
def rightAt (n : Int) (r : Rule) : Rule := prec n (some .right) r

/-- The rule `name`, shown as a node of another name. -/
def refAs (name other : String) : Rule := shown other true (ref name)

end Rule

/-- What a named rule is: a rule proper, or a token. -/
inductive Definition where
  | rule (r : Rule)
  | token (t : Token)

/-- The names of the rules that a rule refers to. -/
def Rule.references : Rule → List String
  | .ref n => [n]
  | .seq a b | .alt a b => a.references ++ b.references
  | .plus r | .field _ r | .shown _ _ r | .prec _ _ r | .dynamic _ r => r.references
  | .empty | .token _ => []

/-- The names of the rules that a definition refers to. -/
def Definition.references : Definition → List String
  | .rule r => r.references
  | .token _ => []

end Grammar

open Grammar in
/-- A grammar: its rules in order, the first being the start, and what the parser has to know
about them. -/
structure Grammar where
  definitions : List (String × Definition)
  /-- Tokens that may stand anywhere. -/
  extras : List String
  /-- Rules that are replaced by their parts wherever they are used. -/
  inlined : List String
  /-- Hidden rules that stand for a family of nodes. -/
  supertypes : List String
  /-- The token that reserved words are read as. -/
  word : String
  /-- Tokens scanned by a rule of their own. -/
  scanned : List Token
  /-- Lists of rules in falling order of preference, consulted when precedences do not decide. -/
  orderings : List (List String)
  /-- Tokens that would be read in place of others where both are acceptable: the name of a token
  and the names of the others. -/
  rivals : List (String × List String)

namespace Grammar

/-- Definitions with others put in their place by name; those with new names come last. -/
def redefine (base changes : List (String × Definition)) : List (String × Definition) :=
  base.map (fun (name, d) => (name, (changes.lookup name).getD d)) ++
    changes.filter fun c => !(base.any fun b => b.1 == c.1)

/-- The names that are needed when those in `found` and in `pending` are; `fuel` bounds the number
of definitions looked at. -/
def neededFrom (definitions : List (String × Definition)) :
    Nat → List String → List String → List String
  | 0, _, found => found
  | _ + 1, [], found => found
  | fuel + 1, name :: pending, found =>
    if found.contains name then neededFrom definitions fuel pending found
    else
      let more := ((definitions.lookup name).map Definition.references).getD []
      neededFrom definitions fuel (more ++ pending) (name :: found)

/-- The definitions that the first one and the given ones need. -/
def needed (definitions : List (String × Definition)) (extras : List String) :
    List (String × Definition) :=
  let start := definitions.head?.toList.map (·.1)
  let fuel := total (fun d => d.2.references.length + 1) definitions + extras.length + 1
  let names := neededFrom definitions fuel (start ++ extras) []
  definitions.filter fun d => names.contains d.1

end Grammar

end CodeMetrics
