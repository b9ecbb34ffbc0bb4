import CodeMetrics.LineIndex
import CodeMetrics.Statement.Build
import CodeMetrics.StructuralUnit
import CodeMetrics.StructuralUnit.Declarator
import CodeMetrics.StructuralUnit.Scope
import CodeMetrics.Total

/-!
# Units of a tree

`StructuralUnit.collect` walks a tree in document order and makes one unit of every function
definition with a body, and of every lambda outside of a callable. It looks neither into function
definitions nor into lambdas.

The walk keeps its pending steps in a list, so its depth does not depend on that of the tree. The
scopes around the current step are kept from step to step: a node that opens one puts a `Step.leave`
after the steps of its children, which closes the scope again. The names of the namespaces opened so
far stay known: whether a qualifier names a type depends on them.
-/

namespace CodeMetrics.StructuralUnit

open Cst

/-- One step of the walk. -/
inductive Step where
  | visit (n : Node)
  /-- A lambda met as a child of a node. -/
  | lambda (n parent : Node)
  /-- The end of the scope that was opened last. -/
  | leave

/-- What the walk keeps from step to step. -/
structure WalkState where
  /-- The scopes around the current step. -/
  scopes : List Scope := []
  /-- The names of the namespaces opened so far. -/
  namespaces : List String := []
  /-- The units found so far, last one first. -/
  units : List StructuralUnit := []

/-- Where a function definition says which function it defines. -/
structure Signature where
  name : String
  parameterCount : Nat

/-- **The name and the parameters of a function definition.** -/
def signature? (n : Node) : Option Signature := do
  let declarator ← n.childWithRole? .declarator
  let function := Declarator.functionDeclarator? declarator
  let holder ← function.bind (·.childWithRole? .declarator) <|>
    if declarator.kind = .identifier then some declarator else none
  let name ← Declarator.name? holder
  return { name, parameterCount := Declarator.parameterCount function }

/-- The type a function belongs to: the innermost type around it, else the qualifier of its name
unless that names a namespace. -/
def enclosingTypeOf (namespaces : List String) (scopes : List Scope) (name : String) :
    Option String :=
  Scope.innermostType? scopes <|>
    (Scope.qualifierOf? name).filter fun q => !Scope.namesNamespace namespaces scopes q

/-- The unit of a function definition. One without a body gives none. -/
def ofFunction? (lines : LineIndex) (namespaces : List String) (scopes : List Scope) (n : Node) :
    Except NormalizationError (Option StructuralUnit) :=
  match n.childWithRole? .body with
  | none => .ok none
  | some body =>
    match signature? n with
    | none => .error ⟨n.kind, n.span.start, .unnamedFunction⟩
    | some signature => do
      let enclosingType := enclosingTypeOf namespaces scopes signature.name
      let (statements, lambdas) ← Build.ofBody body
      return some {
        name := Scope.qualify scopes signature.name
        kind := if enclosingType.isSome then .method else .function
        parameterCount := signature.parameterCount
        body := statements
        span := n.span
        enclosingType
        lambdaCount := lambdas
        realLines := lines.realBetween n.span.startLine n.span.endLine }

/-- The name of a lambda that initialises nothing. -/
def anonymousLambda : String := "<lambda>"

/-- The name of a lambda: that of the declarator it initialises. -/
def lambdaName (parent : Node) : String :=
  (((parent.childWithRole? .declarator).filter fun d => d.kind == .identifier).bind
    Node.text).getD anonymousLambda

/-- The unit of a lambda outside of every callable. -/
def ofLambda (lines : LineIndex) (scopes : List Scope) (n parent : Node) :
    Except NormalizationError StructuralUnit := do
  let (statements, lambdas) ← match n.childWithRole? .body with
    | some body => Build.ofBody body
    | none => .ok ([], 0)
  return {
    name := Scope.qualify scopes (lambdaName parent)
    kind := .lambda
    parameterCount := Declarator.parameterCount (n.childWithRole? .declarator)
    body := statements
    span := n.span
    enclosingType := Scope.innermostType? scopes
    lambdaCount := lambdas
    realLines := lines.realBetween n.span.startLine n.span.endLine }

/-- Whether a node may open a scope. -/
def mayOpenScope (n : Node) : Bool := n.kind == .namespaceDefinition || n.kind == .typeSpecifier

/-- The scope that a node opens. One without a name opens none. -/
def openedScope? (n : Node) : Option Scope :=
  match n.kind with
  | .namespaceDefinition => ((n.childWithRole? .name).bind Node.text).map .ofNamespace
  | .typeSpecifier => ((n.childWithRole? .name).bind Node.text).map .ofType
  | _ => none

/-- The children of a node that the walk goes on to: a scope's name is left out. -/
def walkedChildren (n : Node) : List Node :=
  if mayOpenScope n then n.children.filter fun c => c.role != some .name else n.children

/-- The names of namespaces known after a scope has been opened. -/
def openNamespace (scopes : List Scope) (known : List String) : Option Scope → List String
  | some (.ofNamespace name) => known ++ Scope.openedNames (Scope.qualify scopes name)
  | _ => known

namespace WalkState

/-- Opens the scope of a node. -/
def enter (state : WalkState) (n : Node) : WalkState :=
  { state with
    scopes := state.scopes ++ (openedScope? n).toList
    namespaces := openNamespace state.scopes state.namespaces (openedScope? n) }

/-- Closes the scope that was opened last. -/
def leave (state : WalkState) : WalkState := { state with scopes := state.scopes.dropLast }

/-- Adds a unit, if there is one. -/
def add (state : WalkState) (unit? : Option StructuralUnit) : WalkState :=
  { state with units := unit?.toList ++ state.units }

end WalkState

/-! ### The walk -/

namespace Step

/-- The step for a child of a node. -/
def ofChild (parent c : Node) : Step := if c.kind = .lambda then .lambda c parent else .visit c

/-- The steps that a step puts before all others. -/
def pushed : Step → List Step
  | visit n =>
    if n.kind = .functionDefinition then []
    else (walkedChildren n).map (ofChild n) ++ (openedScope? n).toList.map fun _ => leave
  | lambda _ _ => []
  | leave => []

/-- **What a step does.** -/
def run (lines : LineIndex) (state : WalkState) : Step → Except NormalizationError WalkState
  | visit n =>
    if n.kind = .functionDefinition then do
      let unit? ← ofFunction? lines state.namespaces state.scopes n
      return state.add unit?
    else .ok (state.enter n)
  | lambda n parent => do
    let unit ← ofLambda lines state.scopes n parent
    return state.add (some unit)
  | leave => .ok state.leave

/-- What a step counts for: twice the nodes it holds, and one for the end of a scope. -/
def size : Step → Nat
  | visit n => 2 * n.size
  | lambda n _ => 2 * n.size
  | leave => 1

theorem size_ofChild (parent c : Node) : (ofChild parent c).size = 2 * c.size := by
  unfold ofChild
  split <;> rfl

end Step

/-- What the steps count for together. -/
def stepsSize (steps : List Step) : Nat := total Step.size steps

theorem stepsSize_append (ss ts : List Step) :
    stepsSize (ss ++ ts) = stepsSize ss + stepsSize ts := by
  simp [stepsSize]

theorem stepsSize_children (parent : Node) (ns : List Node) :
    stepsSize (ns.map (Step.ofChild parent)) = 2 * Node.sizeAll ns := by
  induction ns with
  | nil => rfl
  | cons n ns ih =>
    simp only [stepsSize, List.map_cons, total_cons, Step.size_ofChild, Node.sizeAll_cons] at ih ⊢
    omega

theorem sizeAll_filter_le (p : Node → Bool) (ns : List Node) :
    Node.sizeAll (ns.filter p) ≤ Node.sizeAll ns := by
  induction ns with
  | nil => simp
  | cons n ns ih => by_cases h : p n <;> simp [h] <;> omega

theorem sizeAll_walkedChildren_lt (n : Node) : Node.sizeAll (walkedChildren n) < n.size := by
  have h := Node.size_eq n
  have := sizeAll_filter_le (fun c => c.role != some .name) n.children
  unfold walkedChildren
  split <;> omega

theorem Step.stepsSize_pushed_lt (s : Step) : stepsSize s.pushed < s.size := by
  cases s with
  | visit n =>
    have h := sizeAll_walkedChildren_lt n
    have hl : stepsSize ((openedScope? n).toList.map fun _ => leave) ≤ 1 := by
      cases openedScope? n <;> simp [stepsSize, size]
    rw [pushed]
    split
    · have := Node.size_pos n
      simp only [stepsSize, total_nil, size]
      omega
    · rw [stepsSize_append, stepsSize_children]
      simp only [size]
      omega
  | lambda n parent =>
    have := Node.size_pos n
    simp only [pushed, stepsSize, total_nil, size]
    omega
  | leave => simp [pushed, stepsSize, size]

/-- **The walk**: the units found after all steps, in document order. -/
def walk (lines : LineIndex) (steps : List Step) (state : WalkState) :
    Except NormalizationError (List StructuralUnit) :=
  match steps with
  | [] => .ok state.units.reverse
  | s :: rest =>
    match s.run lines state with
    | .error e => .error e
    | .ok state => walk lines (s.pushed ++ rest) state
termination_by stepsSize steps
decreasing_by
  have := s.stepsSize_pushed_lt
  rw [stepsSize_append]
  simp only [stepsSize, total_cons] at this ⊢
  omega

/-- **The units of a tree**, in document order. -/
def collect (lines : LineIndex) (root : Node) : Except NormalizationError (List StructuralUnit) :=
  walk lines [.visit root] {}

end CodeMetrics.StructuralUnit
