import CodeMetrics.Proofs.Metrics.Marks
import CodeMetrics.Proofs.Metrics.Statements
import CodeMetrics.Proofs.StructuralUnit.Bodies

/-!
# Bounds on what is counted

What the metrics count is bounded by the number of nodes of the tree: every decision is made at a
node of its own, apart from the last alternative of a ladder, which is counted at an `if`. So the
sums of a report are exact whenever the tree has fewer nodes than a word has values.

The decisions of the statements of a body are those that the visits of the body contribute, whatever
the configuration (`StructuralUnit.Place.HasBody.decisions_eq`). Two configurations that differ in
one option then tell what that option adds, in the statements and in the visits, so that the
operators of all statements are those of the visits.
-/

namespace CodeMetrics

open Cst Build Tally

namespace Tally

theorem when_le (condition : Bool) (n : Nat) : when condition n ≤ n := by
  cases condition <;> simp [when]

theorem when_le_when (condition : Bool) {m n : Nat} (h : m ≤ n) :
    when condition m ≤ when condition n := by
  cases condition <;> simp [when, h]

theorem total_when {α : Type} (condition : Bool) (f : α → Nat) (as : List α) :
    total (fun a => when condition (f a)) as = when condition (total f as) := by
  induction as with
  | nil => simp
  | cons a as ih => simp [ih, when_add]

end Tally

namespace Build.Visit

/-! ### The parts of a contribution -/

/-- The logical operators that a visit contributes. -/
def operators (v : Visit) : Nat :=
  match v.construct with
  | .ifElse | .loop | .switch => v.logical
  | _ => 0

/-- The conditional expressions that a visit contributes. -/
def conditionalExpressions (v : Visit) : Nat :=
  match v.construct with
  | .ifElse | .switch => v.conditionals
  | .loop => total Node.countConditionals v.headers
  | .plain => v.node.countConditionals
  | _ => 0

/-- Whether the node is an `if` that is built as one. -/
def isArm (v : Visit) : Bool := v.construct = .ifElse

variable {v : Visit}

theorem own_operators :
    (v.own { countLogicalOperators := true }).decisions = (v.own {}).decisions + v.operators := by
  unfold own operators
  cases v.construct <;> simp [Tally.control, armTally, elseTally, Tally.when]

theorem own_conditionalExpressions :
    (v.own { countConditionalExpressions := true }).decisions =
      (v.own {}).decisions + v.conditionalExpressions := by
  unfold own conditionalExpressions
  cases v.construct <;> simp [Tally.control, armTally, elseTally, Tally.when]

theorem logical_eq :
    v.logical = headed (fun m => m.kind == .logicalExpression)
      (v.node.childWithRole? .condition).toList := by
  unfold logical headed
  cases v.node.childWithRole? .condition <;> simp [Node.countLogical_eq]

theorem conditionals_eq :
    v.conditionals = headed (fun m => m.kind == .conditionalExpression)
      (v.node.childWithRole? .condition).toList := by
  unfold conditionals headed
  cases v.node.childWithRole? .condition <;> simp [Node.countConditionals_eq]

theorem headed_condition_le (p : Node → Bool) (v : Visit) :
    headed p (v.node.childWithRole? .condition).toList ≤ headed p v.headers := by
  cases hc : v.node.childWithRole? .condition with
  | none => exact Nat.zero_le _
  | some c =>
    refine total_le_of_subperm (List.singleton_subperm_iff.2 (List.mem_filter.2 ?_))
    have hrole : c.role = some .condition := by simpa using List.find?_some hc
    exact ⟨Node.mem_of_childWithRole? hc, by simp [hrole]⟩

theorem operators_le : v.operators ≤ v.marked.countP fun m => m.kind == .logicalExpression := by
  have hle := headed_condition_le (fun m => m.kind == .logicalExpression) v
  unfold operators marked
  cases hc : v.construct <;>
    simp only [List.countP_cons, countP_flatMap_expressions, logical_eq] <;> omega

theorem conditionalExpressions_le :
    v.conditionalExpressions ≤ v.marked.countP fun m => m.kind == .conditionalExpression := by
  unfold conditionalExpressions marked
  cases hc : v.construct <;>
    simp only [List.countP_cons, countP_flatMap_expressions, conditionals_eq, headed,
      funext Node.countConditionals_eq] <;> omega

theorem length_flatMap_expressions (hs : List Node) :
    (hs.flatMap Node.expressions).length =
      headed (fun m => m.kind == .logicalExpression) hs + total Node.countConditionals hs := by
  induction hs with
  | nil => rfl
  | cons h hs ih =>
    have := h.countLogical_add_countConditionals
    rw [Node.countLogical_eq] at this
    simp only [List.flatMap_cons, List.length_append, ih, headed, total_cons]
    omega

/-- **A visit contributes at most the nodes that it counts**, and one more for the last alternative
of a ladder. -/
theorem own_decisions_le (config : Config) :
    (v.own config).decisions ≤
      v.marked.length + Tally.when config.countElseBranch (if v.isArm then 1 else 0) := by
  have hcondition := headed_condition_le (fun m => m.kind == .logicalExpression) v
  have hlogical := when_le config.countLogicalOperators v.logical
  have hconditionals := when_le config.countConditionalExpressions v.conditionals
  have hheaders :=
    when_le config.countConditionalExpressions (total Node.countConditionals v.headers)
  have hplain := when_le config.countConditionalExpressions v.node.countConditionals
  have hexpressions := v.node.countLogical_add_countConditionals
  have htotal : total Node.countConditionals (v.node.childWithRole? .condition).toList =
      v.conditionals := by
    rw [conditionals_eq, funext Node.countConditionals_eq]
    rfl
  rw [logical_eq] at hlogical
  unfold own marked isArm
  cases hc : v.construct <;>
    simp only [List.length_cons, length_flatMap_expressions, Tally.control, armTally, elseTally,
      add_decisions, zero_decisions, CaseLabels.tally, handlers, List.length_map, logical_eq,
      htotal]
  case ifElse =>
    have helse : Tally.when (config.countElseBranch && v.endsInElse) 1 ≤
        Tally.when config.countElseBranch 1 := by
      cases config.countElseBranch <;> simp [Tally.when]
      split <;> omega
    simp only [decide_true, if_true]
    omega
  case switch =>
    have := when_le (config.countDefaultLabel &&
      (joinLabels (v.items.map fun w => itemLabels w.node)).hasDefault) 1
    omega
  case case =>
    unfold caseLabel
    split <;> simp
  all_goals omega

end Build.Visit

/-! ### Units -/

namespace StructuralUnit

namespace Place

open Visit

variable {p : Place} {u : StructuralUnit}

theorem proper_of_mem_visits {v : Visit} (h : v ∈ p.visits) : v.Proper := by
  obtain ⟨w, hw, hv⟩ := List.mem_flatMap.1 h
  obtain ⟨b, -, rfl⟩ := List.mem_map.1 hw
  exact Visit.proper_of_mem_visits (proper_start b) hv

/-- **No node of a callable is counted twice**, and its own node not at all. -/
theorem HasBody.total_marked_add_le (h : p.HasBody u) (q : Node → Bool) :
    total (fun v => v.marked.countP q) p.visits + (if q p.node then 1 else 0) ≤
      p.node.numberOf q := by
  have hbody := p.node.total_body_add_le (Node.numberOf q)
  have hstarts : total (fun v => v.marked.countP q) p.visits ≤
      total (Node.numberOf q) (p.node.childWithRole? .body).toList := by
    rw [visits, total_flatMap, starts, total_map]
    refine total_le_total fun b hb => total_marked_le ?_
    rintro e ⟨w, hw, he⟩
    exact h.faultless e ⟨w, List.mem_flatMap.2 ⟨start b, List.mem_map_of_mem hb, hw⟩, he⟩
  have hnode := Node.numberOf_eq q p.node
  omega

theorem HasBody.total_le (h : p.HasBody u) {f : Visit → Nat} {q : Node → Bool}
    (hf : ∀ v ∈ p.visits, f v ≤ v.marked.countP q) : total f p.visits ≤ p.node.numberOf q := by
  have := total_le_total hf
  have := h.total_marked_add_le q
  omega

/-- **The decisions of a unit are what the visits of its body contribute.** -/
theorem HasBody.decisions_eq (h : p.HasBody u) (config : Config) :
    (ofStatements config 0 u.body).decisions =
      total (fun v => (v.own config).decisions) p.visits := by
  have htally : ofStatements config 0 u.body = (p.visits.map (own config)).sum := by
    rw [h.body, ofStatements_flatMap, visits, List.map_flatMap, List.flatMap, List.sum_flatten,
      List.map_map]
    refine congrArg List.sum (List.map_congr_left fun v hv => ?_)
    have hfaults : ∀ e, ¬Faults v.visits e := by
      rintro e ⟨w, hw, he⟩
      exact h.faultless e ⟨w, List.mem_flatMap.2 ⟨v, hv, hw⟩, he⟩
    obtain ⟨b, -, rfl⟩ := List.mem_map.1 hv
    exact tally_eq_sum config hfaults
  rw [htally, sum_decisions, List.map_map, total_eq_sum]
  rfl

theorem HasBody.total_logicalOperators_eq (h : p.HasBody u) :
    total Statement.logicalOperators (Statement.allWithin u.body) =
      total Visit.operators p.visits := by
  have hon := h.decisions_eq { countLogicalOperators := true }
  have hoff := h.decisions_eq {}
  rw [Statement.decisions_ofStatements, Statement.total_decisions] at hon hoff
  simp only [own_operators, total_add, Tally.when, Bool.false_eq_true, if_true,
    if_false] at hon hoff
  omega

theorem HasBody.total_conditionalExpressions_eq (h : p.HasBody u) :
    total Statement.conditionalExpressions (Statement.allWithin u.body) =
      total Visit.conditionalExpressions p.visits := by
  have hon := h.decisions_eq { countConditionalExpressions := true }
  have hoff := h.decisions_eq {}
  rw [Statement.decisions_ofStatements, Statement.total_decisions] at hon hoff
  simp only [own_conditionalExpressions, total_add, Tally.when, Bool.false_eq_true, if_true,
    if_false] at hon hoff
  omega

theorem HasBody.lambdaCount_le (h : p.HasBody u) :
    u.lambdaCount ≤ p.node.numberOf fun m => m.kind == .lambda := by
  rw [h.lambdaCount, Build.lambdaCount, ← sum_map_eq_countP fun _ _ => rfl, ← total_eq_sum]
  refine h.total_le fun v hv => ?_
  split
  · next hl =>
    have hp : v.position = .lambda := by simpa [Visit.isLambda] using hl
    simp [marked, construct, hp, (proper_of_mem_visits hv).lambda hp]
  · exact Nat.zero_le _

/-- **The decisions of a unit**, and one for the unit, are at most the nodes of its callable and,
if last alternatives are counted, its `if`s. -/
theorem HasBody.exactCyclomatic_le (h : p.HasBody u) (config : Config) :
    u.exactCyclomatic config ≤ p.node.numberOf (fun _ => true) +
      Tally.when config.countElseBranch (p.node.numberOf fun m => m.kind == .ifStatement) := by
  have hmarked := h.total_marked_add_le fun _ => true
  have harms : total (fun v => if v.isArm then 1 else 0) p.visits ≤
      p.node.numberOf fun m => m.kind == .ifStatement := by
    refine h.total_le fun v _ => ?_
    split
    · next ha =>
      have hc : v.construct = .ifElse := by simpa [isArm] using ha
      simp [marked, hc, kind_of_ifElse hc]
    · exact Nat.zero_le _
  have hown : total (fun v => (v.own config).decisions) p.visits ≤
      total (fun v => v.marked.length + when config.countElseBranch (if v.isArm then 1 else 0))
        p.visits := total_le_total fun v _ => own_decisions_le config
  rw [exactCyclomatic, h.decisions_eq]
  simp only [total_add, List.countP_true, if_true, total_when] at hmarked hown
  have hwhen := when_le_when config.countElseBranch harms
  omega

/-! ### All units -/

/-- **Different units hold different nodes.** -/
theorem total_numberOf_units_le (q : Node → Bool) (p : Place) :
    total (fun r => r.node.numberOf q) (p.places.filter hasUnit) ≤ p.node.numberOf q := by
  induction p using places.induct with
  | case1 p ih =>
    rw [places_eq]
    by_cases hc : p.isCallable
    · have hb : p.below = [] := by simp [below, hc]
      rw [hb]
      by_cases hu : p.hasUnit <;> simp [hu]
    · have hu : ¬p.hasUnit := fun hu => hc (by
        simp only [hasUnit, isCallable, Bool.or_eq_true, Bool.and_eq_true] at hu ⊢
        tauto)
      have hb : p.below = (p.node.children.filter fun c => !isScopeName p.node c).map p.child := by
        simp [below, hc]
      have hbelow : total (fun r => r.node.numberOf q) ((p.below.flatMap places).filter hasUnit) ≤
          total (fun r => r.node.numberOf q) p.below := by
        rw [List.filter_flatMap, total_flatMap]
        exact total_le_total fun r hr => ih ⟨r, hr⟩
      have hchildren : total (fun r => r.node.numberOf q) p.below ≤
          total (Node.numberOf q) p.node.children := by
        rw [hb, total_map]
        exact total_numberOf_filter_le _ p.node
      have hnode := Node.total_numberOf_children_le (p := q) p.node
      rw [List.filter_cons, if_neg hu]
      omega

end Place

end StructuralUnit

namespace StructuralModel

open StructuralUnit

variable {d : Document} {m : StructuralModel}

theorem total_units_le (h : ofDocument d = .ok m) {f : StructuralUnit → Nat}
    {g : StructuralUnit.Place → Nat} (hf : ∀ p u, p.HasBody u → f u ≤ g p) :
    total f m.units ≤ total g ((Place.root d.root).places.filter Place.hasUnit) := by
  obtain ⟨units, hperm, hbodies⟩ := exists_units_of_ofDocument h
  refine Nat.le_trans (total_le_of_subperm hperm.symm.subperm) ?_
  clear hperm
  generalize (Place.root d.root).places.filter Place.hasUnit = ps at hbodies ⊢
  induction hbodies with
  | nil => exact Nat.le_refl _
  | cons hbody _ ih => exact Nat.add_le_add (hf _ _ hbody) ih

theorem total_units_le_numberOf (h : ofDocument d = .ok m) {f : StructuralUnit → Nat}
    {q : Node → Bool} (hf : ∀ p u, Place.HasBody p u → f u ≤ p.node.numberOf q) :
    total f m.units ≤ d.root.numberOf q :=
  Nat.le_trans (total_units_le h hf) (Place.total_numberOf_units_le q (Place.root d.root))

theorem exactCyclomatic_le (h : ofDocument d = .ok m) (config : Config) :
    m.exactCyclomatic config ≤ d.root.nodes.length +
      when config.countElseBranch (d.root.numberOf fun n => n.kind == .ifStatement) := by
  have hunits := total_units_le h fun p u hbody => hbody.exactCyclomatic_le config
  have hall := Place.total_numberOf_units_le (fun _ => true) (Place.root d.root)
  have hifs := when_le_when config.countElseBranch
    (Place.total_numberOf_units_le (fun n => n.kind == .ifStatement) (Place.root d.root))
  have hlength : (Place.root d.root).node.numberOf (fun _ => true) = d.root.nodes.length :=
    congrFun List.countP_true _
  rw [total_add, total_when] at hunits
  rw [hlength] at hall
  exact Nat.le_trans hunits (Nat.add_le_add hall hifs)

/-- **What is counted is bounded by the nodes of the tree.** The total of the cyclomatic
complexities, as a number of any size, is at most the number of nodes, and that of the `if`s more
when last alternatives are counted; the total that is reported is this number as long as a word
holds that many. The lambdas, the conditional expressions and the logical operators of all units are
at most the nodes of these kinds. -/
theorem counts_le_nodes (h : ofDocument d = .ok m) (config : Config) :
    m.exactCyclomatic config ≤ d.root.nodes.length +
        (if config.countElseBranch then d.root.nodes.countP (fun n => n.kind == .ifStatement)
          else 0) ∧
      (m.report config).summary.totalCyclomatic = .ofNat (m.exactCyclomatic config) ∧
      total StructuralUnit.lambdaCount m.units ≤
        d.root.nodes.countP (fun n => n.kind == .lambda) ∧
      total (fun u => total Statement.conditionalExpressions (Statement.allWithin u.body)) m.units ≤
        d.root.nodes.countP (fun n => n.kind == .conditionalExpression) ∧
      total (fun u => total Statement.logicalOperators (Statement.allWithin u.body)) m.units ≤
        d.root.nodes.countP (fun n => n.kind == .logicalExpression) := by
  refine ⟨exactCyclomatic_le h config, totalCyclomatic_report config m,
    total_units_le_numberOf h fun p u hbody => hbody.lambdaCount_le,
    total_units_le_numberOf h fun p u hbody => ?_, total_units_le_numberOf h fun p u hbody => ?_⟩
  · rw [hbody.total_conditionalExpressions_eq]
    exact hbody.total_le fun v _ => Visit.conditionalExpressions_le
  · rw [hbody.total_logicalOperators_eq]
    exact hbody.total_le fun v _ => Visit.operators_le

/-- The tree of a function with an `if`: its condition is a logical operator with a lambda in it,
which holds a conditional expression. -/
def guardedRoot : Node :=
  .bare .translationUnit none [
    .bare .functionDefinition none [
      .identifier .declarator "f",
      .bare .compound (some .body) [
        .bare .ifStatement none [
          .bare .logicalExpression (some .condition) [
            .bare .lambda none [
              .bare .compound (some .body) [.bare .conditionalExpression none []]]],
          .bare .other (some .consequence) [],
          .bare .other (some .alternative) []]]]]

/-- The unit of `guardedRoot`. -/
def guardedUnit : StructuralUnit where
  name := "f"
  kind := .function
  parameterCount := 0
  body := [
    .mk (.block [.mk .sequential {} 0 1]) {} 0 0,
    .mk (.ifElse [.mk 1 [.mk .sequential {} 1 0]] (some [.mk .sequential {} 1 0])) {} 0 0]
  span := {}
  enclosingType := none
  lambdaCount := 1
  realLines := 0

/-- The conditional expression in `guardedRoot` is counted in the lambda alone. -/
theorem counts_le_nodes_guarded :
    ofDocument ⟨.c, guardedRoot, ⟨[], []⟩⟩ = .ok ⟨.c, [guardedUnit], {}, []⟩ ∧
      exactCyclomatic { countElseBranch := true } ⟨.c, [guardedUnit], {}, []⟩ ≤
        guardedRoot.nodes.length + guardedRoot.nodes.countP (fun n => n.kind == .ifStatement) ∧
      total Statement.conditionalExpressions (Statement.allWithin guardedUnit.body) ≤
        guardedRoot.nodes.countP fun n => n.kind == .conditionalExpression := by
  have h : ofDocument ⟨.c, guardedRoot, ⟨[], []⟩⟩ = .ok ⟨.c, [guardedUnit], {}, []⟩ := by cbv
  obtain ⟨hcyclomatic, -, -, hconditionals, -⟩ := counts_le_nodes h { countElseBranch := true }
  exact ⟨h, hcyclomatic, hconditionals⟩

end StructuralModel

end CodeMetrics
