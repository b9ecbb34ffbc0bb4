import CodeMetrics.Cst
import CodeMetrics.Statement
import CodeMetrics.Total

/-!
# Statements of a body

The body of a callable becomes a list of statements. Every lambda in an expression is merged into
the body as a block of its own, right after the statement that holds it, or before the control
construct whose header holds it, and counted.

Statements may be nested at most `nestingLimit` deep. `Build.level` gives what can be built with a
number of levels left: with none left, every statement is rejected; otherwise what a statement
holds is built with one level less. Two things take up a level: a statement, and a group of
conditional compilation among the items of a switch.
-/

namespace CodeMetrics

open Cst

/-- Why a tree has no structural model. -/
inductive NormalizationFault where
  | missingConsequence
  | elseWithoutStatement
  | missingLoopBody
  | missingSwitchBody
  | missingTryBody
  | missingCatchBody
  /-- A case label, a catch clause or an else clause that belongs to nothing. -/
  | outsideConstruct
  | nestedTooDeep
  | unnamedFunction
  deriving DecidableEq

/-- The number of statements that may be open at a time. -/
def nestingLimit : Nat := 128

/-- The words for a fault. -/
def NormalizationFault.message : NormalizationFault → String
  | missingConsequence => "missing consequence"
  | elseWithoutStatement => "else without a statement"
  | missingLoopBody => "missing loop body"
  | missingSwitchBody => "missing switch body"
  | missingTryBody => "missing try body"
  | missingCatchBody => "missing catch body"
  | outsideConstruct => "appears outside of its enclosing construct"
  | nestedTooDeep => "nested more than " ++ toString nestingLimit ++ " levels deep"
  | unnamedFunction => "declarator does not name the function"

/-- A node that has no place in a structural model. -/
structure NormalizationError where
  kind : Kind
  offset : Nat
  fault : NormalizationFault
  deriving DecidableEq

/-- The construct at fault, in words. -/
def NormalizationError.construct (e : NormalizationError) : String := e.kind.describe

/-- The text shown for an error. -/
def NormalizationError.message (e : NormalizationError) : String :=
  "cannot normalize " ++ e.construct ++ " at byte " ++ toString e.offset ++ ": " ++ e.fault.message

/-- Building counts the lambdas that are merged, and may fail. -/
abbrev Build := StateT Nat (Except NormalizationError)

namespace Build

/-- Fails at a node. -/
def fail {α : Type} (n : Node) (fault : NormalizationFault) : Build α :=
  throw ⟨n.kind, n.span.start, fault⟩

/-- The child in a role, which must be there. -/
def require (n : Node) (role : Role) (fault : NormalizationFault) : Build Node :=
  match n.childWithRole? role with
  | some c => pure c
  | none => fail n fault

/-- A block that stands for a node. -/
def block (n : Node) (depth : Nat) (body : List Statement) : Statement :=
  .mk (.block body) n.span depth 0

/-- Whether a child of a group of conditional compilation is one of its items: not its condition,
its name, or another name. -/
def isGroupItem (c : Node) : Bool :=
  c.role != some .condition && c.role != some .name && c.kind != .identifier

/-- The items of a group of conditional compilation. -/
def groupItems (n : Node) : List Node := n.children.filter isGroupItem

theorem mem_groupItems {n c : Node} :
    c ∈ groupItems n ↔ c ∈ n.children ∧ c.role ∉ [some .condition, some .name] ∧
      c.kind ≠ .identifier := by
  simp [groupItems, isGroupItem]

/-! ### Ladders -/

/-- How an `else if` ladder ends. -/
inductive LadderEnd where
  /-- Without `else`. -/
  | open
  /-- With a last alternative. -/
  | otherwise (n : Node)
  /-- With an `else` that holds nothing. -/
  | empty (clause : Node)

/-- What follows one `if` of a ladder. -/
inductive LadderNext where
  | done (e : LadderEnd)
  | next (n : Node)

/-- What follows one `if` of a ladder. -/
def ladderNext (n : Node) : LadderNext :=
  match n.childWithRole? .alternative with
  | none => .done .open
  | some alternative =>
    if alternative.kind = .elseClause then
      match alternative.children with
      | [] => .done (.empty alternative)
      | inner :: _ => if inner.kind = .ifStatement then .next inner else .done (.otherwise inner)
    else if alternative.kind = .ifStatement then .next alternative
    else .done (.otherwise alternative)

theorem sizeOf_lt_of_ladderNext {n m : Node} (h : ladderNext n = .next m) :
    sizeOf m < sizeOf n := by
  unfold ladderNext at h
  split at h
  · cases h
  · rename_i alternative ha
    have h1 := Node.sizeOf_lt_of_mem_children (Node.mem_of_childWithRole? ha)
    split at h
    · split at h
      · cases h
      · rename_i inner rest hc
        have h2 : sizeOf inner < sizeOf alternative :=
          Node.sizeOf_lt_of_mem_children (by simp [hc])
        split at h <;> cases h
        omega
    · split at h <;> cases h
      omega

/-- The `if`s of a ladder after a first one, and its end. -/
def ladder (n : Node) : List Node × LadderEnd :=
  match _h : ladderNext n with
  | .done e => ([], e)
  | .next m =>
    let (members, e) := ladder m
    (m :: members, e)
termination_by sizeOf n
decreasing_by exact sizeOf_lt_of_ladderNext _h

/-! ### One level -/

/-- The labels of a switch. -/
structure CaseLabels where
  count : Nat := 0
  hasDefault : Bool := false

/-- The labels of two lists of items together. -/
def CaseLabels.append (a b : CaseLabels) : CaseLabels :=
  ⟨a.count + b.count, a.hasDefault || b.hasDefault⟩

/-- The label of a case. -/
def caseLabel (n : Node) : CaseLabels :=
  if (n.childWithRole? .value).isSome then ⟨1, false⟩ else ⟨0, true⟩

/-- What can be built with some number of levels left: the statements that a node in statement
position becomes, and what a group among the items of a switch holds. -/
structure Level where
  statement : Node → Nat → Build (List Statement)
  switchGroup : Node → Nat → Build (CaseLabels × List Statement)

variable (inner : Level)

/-- The statements of nodes one after the other. -/
def sequence (depth : Nat) : List Node → Build (List Statement)
  | [] => pure []
  | n :: ns => do
    let first ← inner.statement n depth
    let rest ← sequence depth ns
    return first ++ rest

/-- The statements of a body: the braces around it are left out. -/
def body (n : Node) (depth : Nat) : Build (List Statement) :=
  if n.kind = .compound then sequence inner depth n.children else inner.statement n depth

/-- The blocks of lambdas, each counted. -/
def lambdaBlocks (depth : Nat) : List Node → Build (List Statement)
  | [] => pure []
  | l :: ls => do
    modify (· + 1)
    let statements ← match l.childWithRole? .body with
      | some b => body inner b depth
      | none => pure []
    let rest ← lambdaBlocks depth ls
    return block l depth statements :: rest

/-- The blocks of the lambdas in the expressions below a node. -/
def mergeLambdas (n : Node) (depth : Nat) : Build (List Statement) :=
  lambdaBlocks inner depth n.lambdasBelow

/-- One arm of a ladder: the conditional expressions and the lambdas of its condition, and the
arm. -/
structure Arm where
  conditionals : Nat
  lambdas : List Statement
  arm : ConditionalArm

/-- Builds one arm of a ladder. -/
def buildArm (n : Node) (depth : Nat) : Build Arm := do
  let condition := n.childWithRole? .condition
  let lambdas ← match condition with
    | some c => mergeLambdas inner c depth
    | none => pure []
  let consequence ← require n .consequence .missingConsequence
  let statements ← body inner consequence (depth + 1)
  return {
    conditionals := (condition.map Node.countConditionals).getD 0
    lambdas
    arm := .mk ((condition.map Node.countLogical).getD 0) statements }

/-- Builds the arms of a ladder. -/
def buildArms (depth : Nat) : List Node → Build (List Arm)
  | [] => pure []
  | n :: ns => do
    let first ← buildArm inner n depth
    let rest ← buildArms depth ns
    return first :: rest

/-- Builds the end of a ladder. -/
def buildEnd (depth : Nat) : LadderEnd → Build (Option (List Statement))
  | .open => pure none
  | .otherwise n => some <$> body inner n (depth + 1)
  | .empty clause => fail clause .elseWithoutStatement

/-- An `if` with the ladder that follows it. -/
def ifStatement (n : Node) (depth : Nat) : Build (List Statement) := do
  let (members, ladderEnd) := ladder n
  let arms ← buildArms inner depth (n :: members)
  let otherwise ← buildEnd inner depth ladderEnd
  return arms.flatMap Arm.lambdas ++
    [.mk (.ifElse (arms.map Arm.arm) otherwise) n.span depth (total Arm.conditionals arms)]

/-- The sort of loop of a node. -/
def loopKind : Kind → LoopKind
  | .whileLoop => .whileLoop
  | .doLoop => .doLoop
  | _ => .forLoop

/-- The lambdas of the parts of a loop's header. -/
def headerLambdas (depth : Nat) : List Node → Build (List Statement)
  | [] => pure []
  | h :: hs => do
    let first ← mergeLambdas inner h depth
    let rest ← headerLambdas depth hs
    return first ++ rest

/-- A loop. -/
def loopStatement (n : Node) (depth : Nat) : Build (List Statement) := do
  let bodyNode ← require n .body .missingLoopBody
  let headers := n.children.filter fun c => c.role != some .body
  let lambdas ← headerLambdas inner depth headers
  let statements ← body inner bodyNode (depth + 1)
  let logical := ((n.childWithRole? .condition).map Node.countLogical).getD 0
  return lambdas ++
    [.mk (.loop (loopKind n.kind) logical statements) n.span depth
      (total Node.countConditionals headers)]

/-- The items of a switch. Labels inside groups of conditional compilation still belong to the
switch; the group itself becomes a block. -/
def switchItems (depth : Nat) : List Node → Build (CaseLabels × List Statement)
  | [] => pure ({}, [])
  | item :: items => do
    let (labels, statements) ←
      if item.kind = .case then do
        let statements ← sequence inner depth (item.children.filter fun c => c.role != some .value)
        pure (caseLabel item, statements)
      else if item.kind = .conditionalGroup then do
        let (labels, statements) ← inner.switchGroup item depth
        pure (labels, [block item depth statements])
      else do
        let statements ← inner.statement item depth
        pure ({}, statements)
    let (moreLabels, moreStatements) ← switchItems depth items
    return (labels.append moreLabels, statements ++ moreStatements)

/-- A switch. -/
def switchStatement (n : Node) (depth : Nat) : Build (List Statement) := do
  let bodyNode ← require n .body .missingSwitchBody
  let condition := n.childWithRole? .condition
  let lambdas ← match condition with
    | some c => mergeLambdas inner c depth
    | none => pure []
  let (labels, statements) ← switchItems inner (depth + 1) bodyNode.children
  let logical := (condition.map Node.countLogical).getD 0
  return lambdas ++
    [.mk (.switch labels.count labels.hasDefault logical statements) n.span depth
      ((condition.map Node.countConditionals).getD 0)]

/-- The handlers of a try statement. -/
def buildHandlers (depth : Nat) : List Node → Build (List (List Statement))
  | [] => pure []
  | clause :: clauses => do
    let handler ← require clause .body .missingCatchBody
    let first ← body inner handler (depth + 1)
    let rest ← buildHandlers depth clauses
    return first :: rest

/-- A try statement. -/
def tryStatement (n : Node) (depth : Nat) : Build (List Statement) := do
  let bodyNode ← require n .body .missingTryBody
  let statements ← body inner bodyNode (depth + 1)
  let handlers ← buildHandlers inner depth (n.childrenOfKind .catchClause)
  return [.mk (.tryCatch handlers.length statements handlers) n.span depth 0]

/-- **The statements that a node in statement position becomes**, given what can be built one level
below. -/
def mapStatement (n : Node) (depth : Nat) : Build (List Statement) :=
  match n.kind with
  | .directive => pure []
  | .compound => do
    let statements ← sequence inner depth n.children
    return [block n depth statements]
  | .conditionalGroup => do
    let statements ← sequence inner depth (groupItems n)
    return [block n depth statements]
  | .labeled => sequence inner depth (n.children.filter fun c => c.kind != .identifier)
  | .ifStatement => ifStatement inner n depth
  | .forLoop | .rangeFor | .whileLoop | .doLoop => loopStatement inner n depth
  | .switch => switchStatement inner n depth
  | .tryStatement => tryStatement inner n depth
  | .case | .catchClause | .elseClause => fail n .outsideConstruct
  | _ => do
    let lambdas ← mergeLambdas inner n depth
    return .mk .sequential n.span depth n.countConditionals :: lambdas

/-! ### All levels -/

/-- **What can be built with a number of levels left.** -/
def level : Nat → Level
  | 0 =>
    { statement := fun n _ => fail n .nestedTooDeep
      switchGroup := fun n _ => fail n .nestedTooDeep }
  | k + 1 =>
    { statement := mapStatement (level k)
      switchGroup := fun n depth => switchItems (level k) depth (groupItems n) }

/-- The statements of a body, and the number of lambdas merged into them. -/
def ofBody (n : Node) : Except NormalizationError (List Statement × Nat) :=
  (body (level nestingLimit) n 0).run 0

end Build

end CodeMetrics
