import CodeMetrics.Grammar.Tables
import CodeMetrics.Parsing.Source

/-!
# Subtrees

The trees a parser builds. A subtree knows its place in the text, blanks before it included, what
it costs in errors, and its dynamic precedence; two trees for the same text are compared by these
(`Subtree.isWorse`) and, when they agree, by their shape.

Text that could not be parsed is kept in nodes of the symbol `errorSymbol`; while such a node still
grows it has the symbol `skippedSymbol`. A token that had to be invented is `missing`.
-/

namespace CodeMetrics.Parsing

open Grammar

/-- A tree built by the parser. -/
structure Subtree where
  symbol : Nat
  /-- The place where the blanks before the tree begin. -/
  padding : Nat
  start : Nat
  stop : Nat
  production : Option Nat := none
  children : Array Subtree := #[]
  /-- Whether the tree may stand anywhere. -/
  extra : Bool := false
  missing : Bool := false
  /-- Whether the token was read as a reserved word. -/
  reserved : Bool := false
  cost : Nat := 0
  dynamic : Int := 0
  visibleChildren : Nat := 0
  descendants : Nat := 0
  /-- The delimiter of the raw string that is open after the token, for a token that concerns
  one. -/
  delimiter : Option (List Char) := none
  deriving Inhabited

namespace Subtree

/-- What an invented token, a skipped tree, a skipped line, a skipped byte, and each place where the
parser lost its way cost. -/
structure Costs where
  recovery : Nat
  missing : Nat
  skippedTree : Nat
  skippedLine : Nat
  skippedByte : Nat

/-- The costs of errors. -/
def costs : Costs := ⟨500, 110, 100, 30, 1⟩

/-- The symbol of a node for text that could not be parsed. -/
def errorSymbol (t : Tables) : Nat := t.symbols.size + 1

/-- The symbol of such a node while it still grows. -/
def skippedSymbol (t : Tables) : Nat := t.symbols.size + 2

/-- Whether nodes of a symbol appear in the tree. -/
def isVisible (t : Tables) (symbol : Nat) : Bool :=
  symbol == errorSymbol t || (symbol < t.symbols.size && (t.symbols.getD symbol default).visible)

/-- Whether the tree stands for text that could not be parsed. -/
def isError (t : Tables) (s : Subtree) : Bool := s.symbol == errorSymbol t

/-- A token. -/
def leaf (symbol padding start stop : Nat) (reserved : Bool) : Subtree :=
  { symbol, padding, start, stop, reserved, extra := symbol == 0 }

/-- A token that was not there. -/
def missingLeaf (symbol place : Nat) : Subtree :=
  { symbol, padding := place, start := place, stop := place, missing := true
    cost := costs.missing + costs.recovery }

/-- The name a production shows its `i`-th part under. -/
def shownAs (t : Tables) (production : Option Nat) (i : Nat) : Option Shown :=
  match production with
  | none => none
  | some p =>
    match t.productions[p]? with
    | none => none
    | some p => (p.steps[i]?).bind (·.shown)

/-- What is added up over the children of a node. -/
structure Summary where
  part : Nat := 0
  cost : Nat := 0
  dynamic : Int := 0
  visibleChildren : Nat := 0
  descendants : Nat := 0

/-- **A node over children**, the first of which has its blanks begin at `place`. -/
def node (t : Tables) (source : Source) (symbol : Nat) (children : Array Subtree)
    (production : Option Nat) (place : Nat) : Subtree :=
  let isSkip := symbol == errorSymbol t || symbol == skippedSymbol t
  let summary := children.foldl
    (fun (acc : Summary) c =>
      let cost := acc.cost + (if c.symbol == skippedSymbol t then 0 else c.cost)
      let visible := isVisible t c.symbol
      let cost :=
        if isSkip && !c.extra && !(c.isError t && c.children.isEmpty) then
          if visible then cost + costs.skippedTree
          else if c.children.isEmpty then cost
          else cost + costs.skippedTree * c.visibleChildren
        else cost
      let shown := !c.extra && c.symbol != 0 && (shownAs t production acc.part).isSome
      let (visibleChildren, descendants) :=
        if shown || visible then (acc.visibleChildren + 1, acc.descendants + c.descendants + 1)
        else (acc.visibleChildren + c.visibleChildren, acc.descendants + c.descendants)
      { part := if c.extra then acc.part else acc.part + 1
        cost
        dynamic := acc.dynamic + c.dynamic
        visibleChildren
        descendants })
    {}
  let padding := match children[0]? with | some c => c.padding | none => place
  let start := match children[0]? with | some c => c.start | none => place
  let stop := match children.back? with | some c => c.stop | none => place
  let cost :=
    if isSkip then
      summary.cost + costs.recovery + costs.skippedByte * (source.offset stop - source.offset start) +
        costs.skippedLine * (source.row stop - source.row start)
    else summary.cost
  { symbol, padding, start, stop, production, children, cost
    dynamic := summary.dynamic
    visibleChildren := summary.visibleChildren
    descendants := summary.descendants }

/-- The number of nodes a subtree adds to the progress of a parse. -/
def progress (t : Tables) (s : Subtree) : Nat :=
  s.descendants + (if isVisible t s.symbol then 1 else 0) +
    (if s.symbol == skippedSymbol t then 1 else 0)

/-- Compares the shapes of pairs of trees: by symbols, then numbers of children, then children. -/
def compareShapes : Nat → List (Subtree × Subtree) → Ordering
  | 0, _ => .eq
  | _, [] => .eq
  | fuel + 1, (a, b) :: rest =>
    if a.symbol < b.symbol then .lt
    else if b.symbol < a.symbol then .gt
    else if a.children.size < b.children.size then .lt
    else if b.children.size < a.children.size then .gt
    else compareShapes fuel ((a.children.zip b.children).toList ++ rest)

/-- Whether the second tree is to be taken over the first: the one that costs less, then the one
of higher dynamic precedence, then the one whose shape comes first. -/
def isWorse (a b : Subtree) : Bool :=
  if b.cost < a.cost then true
  else if a.cost < b.cost then false
  else if b.dynamic > a.dynamic then true
  else if a.dynamic > b.dynamic then false
  else if a.cost > 0 then true
  else compareShapes 100000 [(a, b)] == .gt

/-- Whether two trees on links of a stack may be taken for one. -/
def isEquivalent (a b : Subtree) : Bool :=
  a.symbol == b.symbol &&
    ((a.cost > 0 && b.cost > 0) ||
      (a.start - a.padding == b.start - b.padding && a.stop - a.start == b.stop - b.start &&
        a.children.size == b.children.size && a.extra == b.extra))

/-- Cuts off the trees at the end that may stand anywhere. -/
def splitTrailingExtras (ts : Array Subtree) : Array Subtree × Array Subtree :=
  let trailing := (ts.toList.reverse.takeWhile (·.extra)).length
  (ts.extract 0 (ts.size - trailing), ts.extract (ts.size - trailing) ts.size)

end Subtree

end CodeMetrics.Parsing
