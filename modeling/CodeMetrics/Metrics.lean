import CodeMetrics.Config
import CodeMetrics.Report
import CodeMetrics.StructuralModel
import CodeMetrics.Total

/-!
# Metrics

The metrics of a structural model.

* The *cyclomatic complexity* of a unit is one more than its decisions: every arm of an `if`, every
  loop, every case label and every catch clause is one, and what the configuration adds;
* its *nesting* is the greatest number of control constructs inside each other;
* its *statements* are all but the blocks;
* a unit is *long* when its statements, or its lines, are more than the threshold.

`Tally` adds up a list of statements exactly; only the report narrows the sums to words.
-/

namespace CodeMetrics

/-- What is counted over statements. -/
structure Tally where
  decisions : Nat := 0
  maxNesting : Nat := 0
  statements : Nat := 0
  branches : Nat := 0
  loops : Nat := 0
  deriving DecidableEq, Inhabited

namespace Tally

/-- The tally of two lists of statements together. -/
def append (a b : Tally) : Tally where
  decisions := a.decisions + b.decisions
  maxNesting := max a.maxNesting b.maxNesting
  statements := a.statements + b.statements
  branches := a.branches + b.branches
  loops := a.loops + b.loops

/-- A number if a condition holds, otherwise zero. -/
def when (condition : Bool) (n : Nat) : Nat := if condition then n else 0

/-- The tally of a control construct at a depth without what it holds. -/
def control (depth decisions branches loops : Nat) : Tally where
  decisions
  maxNesting := depth + 1
  statements := 1
  branches
  loops

/-- The logical operators of the conditions of arms. -/
def armOperators (arms : List ConditionalArm) : Nat := total ConditionalArm.logicalOperators arms

mutual

/-- **The tally of a list of statements** at a depth. -/
def ofStatements (config : Config) (depth : Nat) : List Statement → Tally
  | [] => {}
  | s :: ss => (ofStatement config depth s).append (ofStatements config depth ss)

/-- The tally of one statement at a depth. -/
def ofStatement (config : Config) (depth : Nat) : Statement → Tally
  | .mk kind _ _ conditionals =>
    let own : Tally := { decisions := when config.countConditionalExpressions conditionals }
    own.append (ofKind config depth kind)

/-- The tally of what a statement is. -/
def ofKind (config : Config) (depth : Nat) : StatementKind → Tally
  | .sequential => { statements := 1 }
  | .block body => ofStatements config depth body
  | .ifElse arms otherwise =>
    let decisions := arms.length + when config.countLogicalOperators (armOperators arms) +
      when (config.countElseBranch && otherwise.isSome) 1
    ((control depth decisions arms.length 0).append (ofArms config (depth + 1) arms)).append
      (ofOtherwise config (depth + 1) otherwise)
  | .loop _ operators body =>
    (control depth (1 + when config.countLogicalOperators operators) 0 1).append
      (ofStatements config (depth + 1) body)
  | .switch caseCount hasDefault operators body =>
    let decisions := caseCount + when (config.countDefaultLabel && hasDefault) 1 +
      when config.countLogicalOperators operators
    (control depth decisions caseCount 0).append (ofStatements config (depth + 1) body)
  | .tryCatch catchCount body handlers =>
    ((control depth catchCount catchCount 0).append (ofStatements config (depth + 1) body)).append
      (ofHandlers config (depth + 1) handlers)

/-- The tally of the bodies of arms. -/
def ofArms (config : Config) (depth : Nat) : List ConditionalArm → Tally
  | [] => {}
  | .mk _ body :: arms => (ofStatements config depth body).append (ofArms config depth arms)

/-- The tally of a last alternative. -/
def ofOtherwise (config : Config) (depth : Nat) : Option (List Statement) → Tally
  | none => {}
  | some body => ofStatements config depth body

/-- The tally of handlers. -/
def ofHandlers (config : Config) (depth : Nat) : List (List Statement) → Tally
  | [] => {}
  | body :: rest => (ofStatements config depth body).append (ofHandlers config depth rest)

end

end Tally

/-- **The metrics of a unit.** -/
def StructuralUnit.metrics (config : Config) (u : StructuralUnit) : UnitMetrics :=
  let tally := Tally.ofStatements config 0 u.body
  let lines := UInt64.ofNat u.span.lineCount
  let measured := match config.longMethodMeasure with
    | .statements => UInt64.ofNat tally.statements
    | .lines => lines
  { name := u.name
    kind := u.kind
    startLine := UInt64.ofNat u.span.startLine
    endLine := UInt64.ofNat u.span.endLine
    parameters := UInt64.ofNat u.parameterCount
    cyclomatic := UInt32.ofNat (1 + tally.decisions)
    maxNesting := UInt32.ofNat tally.maxNesting
    statements := UInt64.ofNat tally.statements
    lines
    realLines := UInt64.ofNat u.realLines
    longMethod := measured > config.longMethodThreshold
    branches := UInt32.ofNat tally.branches
    loops := UInt32.ofNat tally.loops
    lambdas := UInt32.ofNat u.lambdaCount }

/-- The greatest nesting of the units; none without units. -/
def greatestNesting (units : List UnitMetrics) : UInt32 :=
  (units.map fun u => u.maxNesting).foldl (fun a b => if a < b then b else a) 0

namespace StructuralModel

/-- The summary of a model whose units have given metrics. -/
def summary (config : Config) (m : StructuralModel) (units : List UnitMetrics) : FileSummary where
  units := UInt64.ofNat units.length
  totalLines := UInt64.ofNat m.lines.totalLines
  realLines := UInt64.ofNat m.lines.realLines
  commentLines := UInt64.ofNat m.lines.commentLines
  totalCyclomatic := total (fun u => u.cyclomatic) units
  maxNesting := greatestNesting units
  longMethods := UInt64.ofNat (units.countP fun u => u.longMethod)
  longParameterLists :=
    UInt64.ofNat (units.countP fun u => u.parameters > config.longParameterListThreshold)
  messageChains :=
    UInt64.ofNat (m.callChains.countP fun n => n ≥ config.messageChainThreshold.toNat)
  excessiveComments := UInt64.ofNat m.lines.commentLines > config.excessiveCommentsThreshold
  commentRatio := .ratio (UInt64.ofNat m.lines.commentLines) (UInt64.ofNat m.lines.realLines)
  parameters := .of (units.map fun u => u.parameters)
  cyclomatic := .of (units.map fun u => u.cyclomatic.toUInt64)
  unitRealLines := .of (units.map fun u => u.realLines)

/-- **The report on a model.** -/
def report (config : Config) (m : StructuralModel) : Report :=
  let units := m.units.map (StructuralUnit.metrics config)
  { language := m.language, summary := m.summary config units, units }

end StructuralModel

end CodeMetrics
