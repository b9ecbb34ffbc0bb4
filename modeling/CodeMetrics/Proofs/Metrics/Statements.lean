import CodeMetrics.Proofs.Metrics.Tally
import CodeMetrics.Proofs.Statement.Nested
import CodeMetrics.Proofs.Total

/-!
# What each statement counts for

The tally of a statement is what it counts for by itself and the tallies of the statements nested in
it, at the depth inside it (`Tally.ofStatement_eq`). By itself a statement counts for its decisions,
and those come in five parts: the points that are always counted, and one part for each option of
the configuration (`Statement.decisions`). Only this number depends on the configuration, and the
decisions of a body are the sum of it over all statements in the body, however deep
(`Statement.decisions_ofStatements`).
-/

namespace CodeMetrics

open Tally

namespace Statement

/-! ### The parts of the decisions -/

/-- The decisions that are counted whatever the configuration: the arms of an `if`, a loop, the
case labels of a switch and the catch clauses of a try statement. -/
def points (s : Statement) : Nat :=
  match s.kind with
  | .ifElse arms _ => arms.length
  | .loop .. => 1
  | .switch caseCount .. => caseCount
  | .tryCatch catchCount .. => catchCount
  | .sequential | .block _ => 0

/-- The logical operators in the conditions of a statement. -/
def logicalOperators (s : Statement) : Nat :=
  match s.kind with
  | .ifElse arms _ => armOperators arms
  | .loop _ operators _ | .switch _ _ operators _ => operators
  | .sequential | .tryCatch .. | .block _ => 0

/-- Whether a statement is a switch with a default label. -/
def hasDefault (s : Statement) : Bool :=
  match s.kind with
  | .switch _ present _ _ => present
  | _ => false

/-- Whether a statement is an `if` with a last alternative. -/
def hasElse (s : Statement) : Bool :=
  match s.kind with
  | .ifElse _ otherwise => otherwise.isSome
  | _ => false

/-- **The decisions that a statement counts for by itself.** -/
def decisions (config : Config) (s : Statement) : Nat :=
  s.points + when config.countLogicalOperators s.logicalOperators +
    when (config.countDefaultLabel && s.hasDefault) 1 +
    when (config.countElseBranch && s.hasElse) 1 +
    when config.countConditionalExpressions s.conditionalExpressions

/-- Whether a statement is a block. -/
def isBlock (s : Statement) : Bool :=
  match s.kind with
  | .block _ => true
  | _ => false

/-- Whether a statement is a loop. -/
def isLoop (s : Statement) : Bool :=
  match s.kind with
  | .loop .. => true
  | _ => false

/-- **What a statement counts for by itself** at a depth. -/
def own (config : Config) (depth : Nat) (s : Statement) : Tally where
  decisions := s.decisions config
  maxNesting := if s.isControl then depth + 1 else 0
  statements := if s.isBlock then 0 else 1
  branches := if s.isLoop then 0 else s.points
  loops := if s.isLoop then 1 else 0

/-! ### The tally of a statement -/

section

variable (config : Config) (depth : Nat)

theorem ofStatements_flatMap_body (arms : List ConditionalArm) :
    ofStatements config depth (arms.flatMap ConditionalArm.body) = ofArms config depth arms := by
  rw [ofStatements_flatMap, ofArms_eq_sum]

theorem ofStatements_getD (otherwise : Option (List Statement)) :
    ofStatements config depth (otherwise.getD []) = ofOtherwise config depth otherwise := by
  cases otherwise <;> simp [ofOtherwise_eq_sum]

theorem ofStatements_flatten (handlers : List (List Statement)) :
    ofStatements config depth handlers.flatten = ofHandlers config depth handlers := by
  rw [← List.flatMap_id, ofStatements_flatMap, ofHandlers_eq_sum]
  rfl

/-- **The tally of a statement**: what it counts for by itself, and what is nested in it. -/
theorem ofStatement_eq (s : Statement) :
    ofStatement config depth s =
      s.own config depth + ofStatements config (s.inside depth) s.nested := by
  obtain ⟨kind, span, recorded, conditionals⟩ := s
  cases kind <;>
    simp only [nested, inside, isControl, kind, if_true, Bool.false_eq_true, if_false, ofStatement,
      ofKind, append_eq_add, ofStatements_nil, ofStatements_append, ofStatements_flatMap_body,
      ofStatements_getD, ofStatements_flatten] <;>
    ext <;>
    simp [Tally.control, own, decisions, points, logicalOperators, hasDefault, hasElse, isControl,
      isBlock, isLoop, kind, conditionalExpressions, when] <;>
    omega

theorem ofStatements_eq_sum (ss : List Statement) :
    ofStatements config depth ss = (ss.map (ofStatement config depth)).sum := by
  induction ss with
  | nil => simp
  | cons s ss ih => simp [ih]

theorem decisions_ofStatements_eq_total (ss : List Statement) :
    (ofStatements config depth ss).decisions =
      total (fun s => (ofStatement config depth s).decisions) ss := by
  rw [ofStatements_eq_sum, sum_decisions, List.map_map, total_eq_sum]
  rfl

theorem decisions_ofStatement (s : Statement) :
    (ofStatement config depth s).decisions = total (decisions config) s.within := by
  induction s using nested_induction generalizing depth with
  | h s ih =>
    have hnested : (ofStatements config (s.inside depth) s.nested).decisions =
        total (decisions config) (s.nested.flatMap within) := by
      rw [decisions_ofStatements_eq_total, total_flatMap]
      exact total_congr fun t ht => ih t ht (s.inside depth)
    rw [ofStatement_eq, add_decisions, hnested, within_eq, total_cons]
    rfl

/-- **The decisions of statements** are those that they and all statements in them count for. -/
theorem decisions_ofStatements (ss : List Statement) :
    (ofStatements config depth ss).decisions = total (decisions config) (allWithin ss) := by
  rw [decisions_ofStatements_eq_total, allWithin, total_flatMap]
  exact total_congr fun s _ => decisions_ofStatement config depth s

/-- **Each option adds its own part to the decisions.** -/
theorem total_decisions (ss : List Statement) :
    total (decisions config) ss = total points ss +
      when config.countLogicalOperators (total logicalOperators ss) +
      when config.countDefaultLabel (ss.countP hasDefault) +
      when config.countElseBranch (ss.countP hasElse) +
      when config.countConditionalExpressions (total conditionalExpressions ss) := by
  induction ss with
  | nil => simp
  | cons s ss ih =>
    have hflag : ∀ a b, when (a && b) 1 = when a (if b then 1 else 0) := by decide
    simp only [total_cons, ih, decisions, List.countP_cons, when_add, hflag]
    omega

end

end Statement

/-! ### What the configuration has no part in -/

namespace Tally

/-- A tally without its decisions. -/
def withoutDecisions (t : Tally) : Tally := { t with decisions := 0 }

theorem withoutDecisions_add (a b : Tally) :
    (a + b).withoutDecisions = a.withoutDecisions + b.withoutDecisions := rfl

theorem withoutDecisions_sum (ts : List Tally) :
    ts.sum.withoutDecisions = (ts.map withoutDecisions).sum := by
  induction ts with
  | nil => rfl
  | cons t ts ih => rw [List.sum_cons, withoutDecisions_add, ih, List.map_cons, List.sum_cons]

theorem withoutDecisions_ofStatement (c c' : Config) (depth : Nat) (s : Statement) :
    (ofStatement c depth s).withoutDecisions = (ofStatement c' depth s).withoutDecisions := by
  induction s using Statement.nested_induction generalizing depth with
  | h s ih =>
    rw [Statement.ofStatement_eq, Statement.ofStatement_eq, withoutDecisions_add,
      withoutDecisions_add, Statement.ofStatements_eq_sum, Statement.ofStatements_eq_sum,
      withoutDecisions_sum, withoutDecisions_sum, List.map_map, List.map_map]
    exact congrArg₂ (· + ·) rfl
      (congrArg List.sum (List.map_congr_left fun t ht => ih t ht (s.inside depth)))

/-- **Only the decisions of a tally depend on the configuration.** -/
theorem withoutDecisions_ofStatements (c c' : Config) (depth : Nat) (ss : List Statement) :
    (ofStatements c depth ss).withoutDecisions = (ofStatements c' depth ss).withoutDecisions := by
  rw [Statement.ofStatements_eq_sum, Statement.ofStatements_eq_sum, withoutDecisions_sum,
    withoutDecisions_sum, List.map_map, List.map_map]
  exact congrArg List.sum
    (List.map_congr_left fun s _ => withoutDecisions_ofStatement c c' depth s)

end Tally

/-! ### Exact complexities -/

/-- The cyclomatic complexity of a unit as a number of any size. -/
def StructuralUnit.exactCyclomatic (config : Config) (u : StructuralUnit) : Nat :=
  1 + (ofStatements config 0 u.body).decisions

namespace StructuralModel

/-- The total of the cyclomatic complexities of a model as a number of any size. -/
def exactCyclomatic (config : Config) (m : StructuralModel) : Nat :=
  total (StructuralUnit.exactCyclomatic config) m.units

theorem totalCyclomatic_report (config : Config) (m : StructuralModel) :
    (m.report config).summary.totalCyclomatic = UInt32.ofNat (m.exactCyclomatic config) := by
  have h : ∀ us : List StructuralUnit,
      total (fun u : UnitMetrics => u.cyclomatic) (us.map (StructuralUnit.metrics config)) =
        UInt32.ofNat (total (StructuralUnit.exactCyclomatic config) us) := fun us => by
    induction us with
    | nil => rfl
    | cons u us ih =>
      rw [List.map_cons, total_cons, ih, total_cons, UInt32.ofNat_add]
      rfl
  exact h m.units

end StructuralModel

end CodeMetrics
