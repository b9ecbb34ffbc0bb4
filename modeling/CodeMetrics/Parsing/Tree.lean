import CodeMetrics.Parsing.Subtree
import CodeMetrics.SyntaxTree

/-!
# The syntax tree of a parse

Hidden nodes are left out: their parts become parts of the node above. A part carries the field
that the innermost production around it gives it, and the name that its production shows it under.
-/

namespace CodeMetrics.Parsing

open Grammar

/-- A part of a subtree that is to be shown: with its other name and its field. -/
structure Part where
  tree : Subtree
  shown : Option Shown
  field : Option String

namespace Part

/-- The place of a node in the text. -/
def position (source : Source) (place : Nat) : Position :=
  { byte := source.offset place, row := source.row place, column := source.column place }

/-- The parts of a subtree. `outer` is the field of the subtree itself, which its parts inherit when
it is hidden. -/
def ofChildren (t : Tables) (tree : Subtree) (outer : Option String) : List Part :=
  let steps : Array Step := match tree.production with
    | none => #[]
    | some p => ((t.productions[p]?).map Production.steps).getD #[]
  (tree.children.foldl
    (fun (acc : List Part × Nat) c =>
      if c.extra then (⟨c, none, none⟩ :: acc.1, acc.2)
      else
        let step : Option Step := steps[acc.2]?
        (⟨c, step.bind (·.shown), (step.bind (·.field)).or outer⟩ :: acc.1, acc.2 + 1))
    ([], 0)).1.reverse

/-- Puts the visible trees of a part in front of a list; `fuel` bounds the depth. -/
def prepend (t : Tables) (source : Source) : Nat → Part → List SyntaxTree → List SyntaxTree
  | 0, _, acc => acc
  | fuel + 1, p, acc =>
    let tree := p.tree
    let info : Option (String × Bool) :=
      match p.shown with
      | some s => if tree.extra then none else some (s.name, s.named)
      | none =>
        if tree.isError t then some ("ERROR", true)
        else if tree.symbol < t.symbols.size then
          let s := t.symbols.getD tree.symbol default
          if s.visible then some (s.name, s.named) else none
        else none
    match info with
    | none => (ofChildren t tree p.field).foldr (prepend t source fuel) acc
    | some (kind, named) =>
      { kind
        named
        field := p.field
        isError := tree.isError t
        isMissing := tree.missing
        hasError := tree.cost > 0
        start := position source tree.start
        stop := position source tree.stop
        children := (ofChildren t tree none).foldr (prepend t source fuel) [] } :: acc

end Part

/-- The syntax tree of a parsed text. -/
def Subtree.toSyntaxTree (t : Tables) (source : Source) (root : Subtree) : Option SyntaxTree :=
  (Part.prepend t source (4 * source.size + 100) ⟨root, none, none⟩ []).head?

end CodeMetrics.Parsing
