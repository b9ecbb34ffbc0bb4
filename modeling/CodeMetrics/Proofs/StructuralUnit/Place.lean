import CodeMetrics.Proofs.Cst.Nodes
import CodeMetrics.Proofs.StructuralUnit.Scope
import CodeMetrics.StructuralUnit.Collect

/-!
# Where units stand in a tree

The units of a tree are found by a walk over pending steps, which opens and closes scopes as it
goes. This file says what it should find without any of that. A `StructuralUnit.Place` is a node
together with its ancestors, from which everything about scopes can be read, and
`StructuralUnit.Place.places` lists the places of a tree in document order, by recursion on the
tree.

What a unit at a place is comes in two parts, `StructuralUnit.Place.IsFunction` and
`StructuralUnit.Place.IsLambda`. Only one thing about a unit depends on more than its own place:
whether the qualifier of a function's name is a type or a namespace depends on the namespaces opened
at the places before it (`StructuralUnit.Place.Known`).
-/

namespace CodeMetrics.StructuralUnit

open Cst

/-- A node of a tree with the nodes around it, outermost first. -/
structure Place where
  ancestors : List Node
  node : Node

namespace Place

/-- The place of the root of a tree. -/
def root (n : Node) : Place := ⟨[], n⟩

/-! ### The places of a tree -/

/-- Whether the place is that of a lambda met as a child. -/
def isLambda (p : Place) : Bool := p.node.kind = .lambda && !p.ancestors.isEmpty

/-- Whether nothing below the place is looked at. -/
def isCallable (p : Place) : Bool := p.node.kind = .functionDefinition || p.isLambda

/-- Whether a child of a node is the name of the scope that the node opens. -/
def isScopeName (n c : Node) : Bool :=
  n.kind ∈ [.namespaceDefinition, .typeSpecifier] && c.role == some .name

/-- The place of a child. -/
def child (p : Place) (c : Node) : Place := ⟨p.ancestors ++ [p.node], c⟩

/-- The places directly below. -/
def below (p : Place) : List Place :=
  if p.isCallable then []
  else (p.node.children.filter fun c => !isScopeName p.node c).map p.child

theorem mem_children_of_mem_below {p q : Place} (h : q ∈ p.below) : q.node ∈ p.node.children := by
  unfold below at h
  split at h
  · cases h
  · obtain ⟨c, hc, rfl⟩ := List.mem_map.1 h
    exact (List.mem_filter.1 hc).1

/-- **The places of a tree**, in document order. -/
def places (p : Place) : List Place :=
  p :: p.below.attach.flatMap fun q => q.1.places
termination_by p.node.size
decreasing_by exact Node.size_lt_of_mem_children (mem_children_of_mem_below q.2)

theorem places_eq (p : Place) : p.places = p :: p.below.flatMap places := by
  rw [places]
  simp

theorem node_mem_nodes_of_mem_places {p q : Place} (h : q ∈ p.places) :
    q.node ∈ p.node.nodes := by
  induction p using places.induct with
  | case1 p ih =>
    rw [places_eq] at h
    rcases List.mem_cons.1 h with rfl | h
    · exact Node.mem_nodes_self _
    · obtain ⟨r, hr, hq⟩ := List.mem_flatMap.1 h
      have hn := Node.mem_nodesBelow_of_mem_children (mem_children_of_mem_below hr)
      exact Node.nodes_subset_of_mem (Node.nodesBelow_subset_nodes _ hn) (ih ⟨r, hr⟩ hq)

/-! ### Names -/

/-- The text of the name of a node. -/
def nameText? (n : Node) : Option String := (n.childWithRole? .name).bind Node.text

/-- The name of a node of one of some kinds. -/
def nameAs? (kinds : List Kind) (n : Node) : Option String :=
  if n.kind ∈ kinds then nameText? n else none

/-- **A name with the names of the scopes around the place**, outermost first. -/
def qualify (p : Place) (name : String) : String :=
  "::".intercalate
    (p.ancestors.filterMap (nameAs? [.namespaceDefinition, .typeSpecifier]) ++ [name])

/-- The innermost type around the place. -/
def innermostType? (p : Place) : Option String :=
  (p.ancestors.filterMap (nameAs? [.typeSpecifier])).getLast?

/-- Whether a name became known when a namespace was opened at one of some places: it is a beginning
of the name of the namespace within the scopes around it. -/
def Known (before : List Place) (name : String) : Prop :=
  ∃ p ∈ before, ∃ opened, nameAs? [.namespaceDefinition] p.node = some opened ∧
    IsBeginning (p.qualify opened) name

/-- What stands before the last separator of a name. -/
def IsQualifier (name qualifier : String) : Prop :=
  ∃ last, name = qualifier ++ "::" ++ last ∧
    ∀ q l, name = q ++ "::" ++ l → q.length ≤ qualifier.length

/-- **The type that a function belongs to**: the innermost type around it, else the qualifier of its
name unless that, as written or within the scopes around it, is the name of a namespace opened
before. -/
inductive BelongsTo (before : List Place) (p : Place) (name : String) : Option String → Prop
  | around {type : String} (ht : p.innermostType? = some type) : BelongsTo before p name (some type)
  | qualifier {q : String} (ht : p.innermostType? = none) (hq : IsQualifier name q)
      (hk : ¬Known before q) (hs : ¬Known before (p.qualify q)) : BelongsTo before p name (some q)
  | ofNamespace {q : String} (ht : p.innermostType? = none) (hq : IsQualifier name q)
      (hk : Known before q ∨ Known before (p.qualify q)) : BelongsTo before p name none
  | unqualified (ht : p.innermostType? = none) (hq : ∀ q, ¬IsQualifier name q) :
      BelongsTo before p name none

/-! ### Units -/

/-- What a unit takes from its node as it is. -/
structure Covers (lines : LineIndex) (p : Place) (u : StructuralUnit) : Prop where
  span : u.span = p.node.span
  realLines : u.realLines = lines.realBetween p.node.span.startLine p.node.span.endLine

/-- **The unit of a function definition** after the places `before`. -/
structure IsFunction (lines : LineIndex) (before : List Place) (p : Place) (u : StructuralUnit) :
    Prop extends Covers lines p u where
  node : p.node.kind = .functionDefinition
  signature : ∃ s, signature? p.node = some s ∧ u.name = p.qualify s.name ∧
    u.parameterCount = s.parameterCount ∧ BelongsTo before p s.name u.enclosingType
  kind : u.kind = if u.enclosingType.isSome then .method else .function
  body : ∃ b, p.node.childWithRole? .body = some b ∧ Build.ofBody b = .ok (u.body, u.lambdaCount)

/-- **The unit of a lambda** in its parent. -/
structure IsLambda (lines : LineIndex) (p : Place) (u : StructuralUnit) : Prop
    extends Covers lines p u where
  node : p.node.kind = .lambda
  name : ∃ parent, p.ancestors.getLast? = some parent ∧ u.name = p.qualify (lambdaName parent)
  parameterCount :
    u.parameterCount = Declarator.parameterCount (p.node.childWithRole? .declarator)
  enclosingType : u.enclosingType = p.innermostType?
  kind : u.kind = .lambda
  body : (∃ b, p.node.childWithRole? .body = some b ∧
      Build.ofBody b = .ok (u.body, u.lambdaCount)) ∨
    p.node.childWithRole? .body = none ∧ u.body = [] ∧ u.lambdaCount = 0

/-- Whether a unit is made at a place. -/
def hasUnit (p : Place) : Bool :=
  p.isLambda || p.node.kind = .functionDefinition && (p.node.childWithRole? .body).isSome

/-- The places of units, each with the places before it. -/
def ofUnits (before : List Place) : List Place → List (List Place × Place)
  | [] => []
  | p :: ps => (if p.hasUnit then [(before, p)] else []) ++ ofUnits (before ++ [p]) ps

end Place

end CodeMetrics.StructuralUnit
