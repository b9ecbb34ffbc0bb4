import CodeMetrics.Language
import CodeMetrics.Span

/-!
# Concrete structure trees

The language-independent tree the analysis works on. A `Cst.Node` has one of the categories of
`Cst.Kind`, the role it plays in its parent, its span, and, for name-like nodes, its text.

* `Cst.Node.childWithRole?`, `Cst.Node.childrenOfKind` – look-up among the children;
* `Cst.Node.countWhere` – counts nodes without looking below those that are not entered;
* `Cst.Node.lambdasBelow` – the outermost lambdas strictly below a node.

The traversals keep their pending nodes in a list, so their depth does not depend on that of the
tree; each step removes one node from the pending ones, which bounds them.
-/

namespace CodeMetrics.Cst

/-- The category of a node. Everything that needs no category of its own is `other`. -/
inductive Kind where
  | translationUnit
  | namespaceDefinition
  /-- A class, struct or union. -/
  | typeSpecifier
  | enumSpecifier
  | template
  | functionDefinition
  | functionDeclarator
  | parameterList
  | parameter
  | lambda
  | compound
  | ifStatement
  | elseClause
  | forLoop
  | rangeFor
  | whileLoop
  | doLoop
  | switch
  | case
  | tryStatement
  | catchClause
  | labeled
  | call
  /-- An access `a.b` or `a->b`. -/
  | fieldAccess
  /-- A conjunction or disjunction. -/
  | logicalExpression
  | conditionalExpression
  /-- A name-like node, whose text is kept. -/
  | identifier
  | primitiveType
  /-- A preprocessor directive, whose parts are dropped. -/
  | directive
  /-- A region of conditional compilation, whose parts are kept. -/
  | conditionalGroup
  | other
  deriving DecidableEq, Inhabited

namespace Kind

/-- Kinds whose source text is kept and whose children are dropped. -/
def capturesText : Kind → Bool
  | identifier | primitiveType => true
  | _ => false

/-- The words for a kind in messages. -/
def describe : Kind → String
  | translationUnit => "translation unit"
  | namespaceDefinition => "namespace"
  | typeSpecifier => "type specifier"
  | enumSpecifier => "enum"
  | template => "template"
  | functionDefinition => "function definition"
  | functionDeclarator => "function declarator"
  | parameterList => "parameter list"
  | parameter => "parameter"
  | lambda => "lambda"
  | compound => "compound statement"
  | ifStatement => "if statement"
  | elseClause => "else clause"
  | forLoop => "for statement"
  | rangeFor => "range-based for statement"
  | whileLoop => "while statement"
  | doLoop => "do statement"
  | switch => "switch statement"
  | case => "case label"
  | tryStatement => "try statement"
  | catchClause => "catch clause"
  | labeled => "labeled statement"
  | call => "call expression"
  | fieldAccess => "field expression"
  | logicalExpression => "logical expression"
  | conditionalExpression => "conditional expression"
  | identifier => "identifier"
  | primitiveType => "primitive type"
  | directive => "preprocessor directive"
  | conditionalGroup => "conditional compilation group"
  | other => "node"

end Kind

/-- The part a child plays in its parent. -/
inductive Role where
  | name
  | declarator
  | parameters
  | body
  | condition
  | consequence
  | alternative
  | value
  | type
  /-- The function of a call. -/
  | callee
  /-- The object of a field access, or the operand of a unary expression. -/
  | operand
  deriving DecidableEq, Inhabited

/-- A node of the structure tree. -/
structure Node where
  kind : Kind
  span : Span
  role : Option Role
  text : Option String
  children : List Node
  deriving Inhabited

namespace Node

/-! ### Look-up among the children -/

/-- The first child in a role. -/
def childWithRole? (n : Node) (role : Role) : Option Node :=
  n.children.find? fun c => c.role == some role

/-- The children of a kind, in order. -/
def childrenOfKind (n : Node) (kind : Kind) : List Node :=
  n.children.filter fun c => c.kind == kind

theorem mem_of_childWithRole? {n c : Node} {role : Role}
    (h : n.childWithRole? role = some c) : c ∈ n.children :=
  List.mem_of_find?_eq_some h

theorem mem_childrenOfKind {n c : Node} {kind : Kind} :
    c ∈ n.childrenOfKind kind ↔ c ∈ n.children ∧ c.kind = kind := by
  simp [childrenOfKind]

theorem mem_of_mem_childrenOfKind {n c : Node} {kind : Kind}
    (h : c ∈ n.childrenOfKind kind) : c ∈ n.children :=
  (mem_childrenOfKind.1 h).1

theorem sizeOf_lt_of_mem_children {n c : Node} (h : c ∈ n.children) : sizeOf c < sizeOf n := by
  have := List.sizeOf_lt_of_mem h
  cases n
  simp_all
  omega

/-! ### Number of nodes -/

mutual

/-- The number of nodes of a tree. -/
def size : Node → Nat
  | ⟨_, _, _, _, children⟩ => sizeAll children + 1

/-- The number of nodes of a list of trees. -/
def sizeAll : List Node → Nat
  | [] => 0
  | n :: ns => n.size + sizeAll ns

end

theorem size_eq (n : Node) : n.size = sizeAll n.children + 1 := by
  cases n; rfl

@[simp] theorem sizeAll_nil : sizeAll [] = 0 := rfl

@[simp] theorem sizeAll_cons (n : Node) (ns : List Node) :
    sizeAll (n :: ns) = n.size + sizeAll ns := rfl

@[simp] theorem sizeAll_append (ms ns : List Node) :
    sizeAll (ms ++ ns) = sizeAll ms + sizeAll ns := by
  induction ms with
  | nil => simp
  | cons m ms ih => simp [ih, Nat.add_assoc]

theorem size_pos (n : Node) : 0 < n.size := by
  rw [size_eq]; omega

/-! ### Traversals -/

/-- Counts the nodes satisfying `p` among the pending ones and below those that `enter`
accepts, on top of `count`. -/
def countPending (p enter : Node → Bool) (pending : List Node) (count : Nat) : Nat :=
  match pending with
  | [] => count
  | n :: rest =>
    countPending p enter (if enter n then n.children ++ rest else rest)
      (if p n then count + 1 else count)
termination_by sizeAll pending
decreasing_by
  have := size_eq n
  split <;> simp <;> omega

/-- **The number of nodes satisfying `p`** that are reached from the node through nodes accepted
by `enter`. A node that is not accepted is counted itself, but nothing below it. -/
def countWhere (n : Node) (p enter : Node → Bool) : Nat :=
  countPending p enter [n] 0

/-- The outermost lambdas among the pending nodes and below them. -/
def outermostLambdas (pending : List Node) : List Node :=
  match pending with
  | [] => []
  | n :: rest =>
    if n.kind = .lambda then n :: outermostLambdas rest
    else outermostLambdas (n.children ++ rest)
termination_by sizeAll pending
decreasing_by
  · have := size_pos n; simp; omega
  · have := size_eq n; simp; omega

/-- **The outermost lambdas strictly below a node**, in source order. A lambda inside another
one is not listed. -/
def lambdasBelow (n : Node) : List Node := outermostLambdas n.children

/-- Whether a node is no lambda; expressions are counted up to the lambdas they hold. -/
def isOutsideLambda (n : Node) : Bool := n.kind != .lambda

/-- The number of logical operators of an expression, those inside lambdas excepted. -/
def countLogical (n : Node) : Nat :=
  n.countWhere (fun m => m.kind == .logicalExpression) isOutsideLambda

/-- The number of conditional expressions, those inside lambdas excepted. -/
def countConditionals (n : Node) : Nat :=
  n.countWhere (fun m => m.kind == .conditionalExpression) isOutsideLambda

end Node

end CodeMetrics.Cst
