import CodeMetrics.Span

/-!
# Statements

The statements of a callable in the form the metrics are defined on. An `else if` ladder is one
statement with several arms; braces, groups of conditional compilation and lambda bodies are
`block`s, which count for nothing themselves.

A statement records its `depth`, the number of control constructs around it in its unit.
-/

namespace CodeMetrics

/-- The sort of a loop. -/
inductive LoopKind where
  | forLoop
  | whileLoop
  | doLoop
  deriving DecidableEq, Inhabited

mutual

/-- What a statement is. -/
inductive StatementKind where
  | sequential
  | ifElse (arms : List ConditionalArm) (otherwise : Option (List Statement))
  | loop (kind : LoopKind) (logicalOperators : Nat) (body : List Statement)
  | switch (caseCount : Nat) (hasDefault : Bool) (logicalOperators : Nat) (body : List Statement)
  | tryCatch (catchCount : Nat) (body : List Statement) (handlers : List (List Statement))
  | block (body : List Statement)

/-- One arm of an `if`. -/
inductive ConditionalArm where
  | mk (logicalOperators : Nat) (body : List Statement)

/-- A statement. -/
inductive Statement where
  | mk (kind : StatementKind) (span : Span) (depth : Nat) (conditionalExpressions : Nat)

end

namespace ConditionalArm

/-- The number of logical operators in the condition of an arm. -/
def logicalOperators : ConditionalArm → Nat
  | mk n _ => n

/-- The statements of an arm. -/
def body : ConditionalArm → List Statement
  | mk _ b => b

end ConditionalArm

namespace Statement

/-- What the statement is. -/
def kind : Statement → StatementKind
  | mk k _ _ _ => k

/-- Where the statement stands. -/
def span : Statement → Span
  | mk _ s _ _ => s

/-- The number of control constructs around the statement. -/
def depth : Statement → Nat
  | mk _ _ d _ => d

/-- The number of conditional expressions in the statement's own expressions. -/
def conditionalExpressions : Statement → Nat
  | mk _ _ _ c => c

/-- Whether the statement is a control construct. -/
def isControl (s : Statement) : Bool :=
  match s.kind with
  | .sequential | .block _ => false
  | _ => true

/-- **The statements nested directly inside**, in source order. -/
def nested (s : Statement) : List Statement :=
  match s.kind with
  | .sequential => []
  | .ifElse arms otherwise => arms.flatMap ConditionalArm.body ++ otherwise.getD []
  | .loop _ _ body => body
  | .switch _ _ _ body => body
  | .tryCatch _ body handlers => body ++ handlers.flatten
  | .block body => body

end Statement

end CodeMetrics
