import CodeMetrics.Proofs.Cst.Nodes
import CodeMetrics.Proofs.Total
import Mathlib.Data.List.Flatten
import Mathlib.Data.List.Nodup

/-!
# Numbers of nodes

How many nodes of a tree have a property (`Cst.Node.numberOf`), whatever the property is. Two parts
of a tree are told apart by such numbers: what they hold of nodes with the property is together at
most what the tree holds, as for the children in different roles (`Cst.Node.total_childWithRole?`).

Operators are counted in an expression up to the lambdas in it, and the lambdas are looked at by
themselves. `Cst.Node.expressions` lists the nodes that are counted, and
`Cst.Node.countP_expressions_add_le` says that they are no nodes of the lambdas.
-/

namespace CodeMetrics

namespace Cst.Node

variable (p : Node → Bool)

/-- The number of nodes of a tree with a property. -/
def numberOf (n : Node) : Nat := n.nodes.countP p

theorem countP_flatMap_nodes (ns : List Node) :
    (ns.flatMap nodes).countP p = total (numberOf p) ns := by
  induction ns with
  | nil => rfl
  | cons n ns ih => simp [ih, numberOf]

theorem numberOf_eq (n : Node) :
    n.numberOf p = (if p n then 1 else 0) + total (numberOf p) n.children := by
  rw [numberOf, nodes_eq, List.countP_cons, nodesBelow, countP_flatMap_nodes, Nat.add_comm]

variable {p}

theorem total_numberOf_children_le (n : Node) : total (numberOf p) n.children ≤ n.numberOf p := by
  rw [numberOf_eq p n]
  exact Nat.le_add_left _ _

theorem numberOf_le_of_mem_children {n c : Node} (h : c ∈ n.children) :
    c.numberOf p ≤ n.numberOf p := by
  have := total_le_of_subperm (f := numberOf p) (List.singleton_subperm_iff.2 h)
  have := total_numberOf_children_le (p := p) n
  simp only [total_cons, total_nil] at *
  omega

/-- **Children in different roles are different children.** -/
theorem total_childWithRole?_le (n : Node) (f : Node → Nat) (roles : List Role)
    (h : roles.Nodup) :
    total (fun r => total f (n.childWithRole? r).toList) roles ≤ total f n.children := by
  rw [← total_flatMap]
  refine total_le_of_subperm (List.subperm_of_subset (List.nodup_flatMap.2 ⟨?_, ?_⟩) ?_)
  · intro r _
    cases n.childWithRole? r <;> simp
  · refine h.imp fun hne c hc hc' => hne ?_
    have h₁ := List.find?_some (Option.mem_toList.1 hc)
    have h₂ := List.find?_some (Option.mem_toList.1 hc')
    simp_all
  · intro c hc
    obtain ⟨r, -, hc⟩ := List.mem_flatMap.1 hc
    exact mem_of_childWithRole? (Option.mem_toList.1 hc)

/-- The body of a node is none of the children in other roles. -/
theorem total_body_add_le (n : Node) (f : Node → Nat) :
    total f (n.childWithRole? .body).toList +
      total f (n.children.filter fun c => c.role != some .body) ≤ total f n.children := by
  have hle : total f (n.childWithRole? .body).toList ≤
      total f (n.children.filter fun c => !(c.role != some .body)) := by
    cases hb : n.childWithRole? .body with
    | none => exact Nat.zero_le _
    | some b =>
      refine total_le_of_subperm (List.singleton_subperm_iff.2 (List.mem_filter.2 ?_))
      exact ⟨mem_of_childWithRole? hb, by simpa using List.find?_some hb⟩
  have := total_filter_add (f := f) (fun c => c.role != some .body) n.children
  omega

/-! ### Expressions -/

/-- The pending nodes and those below them, up to the lambdas. -/
def outside (pending : List Node) : List Node :=
  match pending with
  | [] => []
  | n :: rest => n :: outside (if n.isOutsideLambda then n.children ++ rest else rest)
termination_by sizeAll pending
decreasing_by
  have := size_eq n
  split <;> simp <;> omega

theorem countPending_eq (pending : List Node) (count : Nat) :
    countPending p isOutsideLambda pending count = count + (outside pending).countP p := by
  induction pending using outside.induct generalizing count with
  | case1 => simp [countPending, outside]
  | case2 n rest ih =>
    simp only [dite_eq_ite] at ih
    rw [countPending, outside, ih, List.countP_cons]
    split <;> omega

/-- The kinds of nodes that are counted in expressions. -/
def expressionKinds : List Kind := [.logicalExpression, .conditionalExpression]

/-- **The nodes that are counted in an expression**, those inside lambdas excepted. -/
def expressions (n : Node) : List Node := (outside [n]).filter fun m => m.kind ∈ expressionKinds

theorem countLogical_eq (n : Node) :
    n.countLogical = n.expressions.countP fun m => m.kind == .logicalExpression := by
  rw [countLogical, countWhere, countPending_eq, Nat.zero_add, expressions, List.countP_filter]
  refine List.countP_congr fun m _ => ?_
  simpa [expressionKinds] using Or.inl

theorem countConditionals_eq (n : Node) :
    n.countConditionals = n.expressions.countP fun m => m.kind == .conditionalExpression := by
  rw [countConditionals, countWhere, countPending_eq, Nat.zero_add, expressions, List.countP_filter]
  refine List.countP_congr fun m _ => ?_
  simpa [expressionKinds] using Or.inr

/-- Every node that is counted is a logical operator or a conditional expression, and not both. -/
theorem countLogical_add_countConditionals (n : Node) :
    n.countLogical + n.countConditionals = n.expressions.length := by
  rw [countLogical_eq, countConditionals_eq, List.length_eq_countP_add_countP
    (fun m : Node => m.kind == .logicalExpression)]
  refine congrArg _ (List.countP_congr fun m hm => ?_)
  have : m.kind ∈ expressionKinds := by simpa [expressions] using (List.mem_filter.1 hm).2
  rcases List.mem_cons.1 this with h | h
  · simp [h]
  · simp [List.mem_singleton.1 h]

/-- What is reached outside of the lambdas, and what the lambdas hold. -/
theorem countP_outside_add_le {q : Node → Bool} (hq : ∀ m, q m → m.kind ≠ .lambda)
    (ns : List Node) :
    ((outside ns).filter q).countP p + total (numberOf p) (outermostLambdas ns) ≤
      total (numberOf p) ns := by
  induction ns using outermostLambdas.induct with
  | case1 => simp [outside, outermostLambdas]
  | case2 n rest hk ih =>
    have hqn : q n = false := by
      by_contra h
      exact hq n (by simpa using h) hk
    simp only [outside, outermostLambdas, isOutsideLambda, hk, bne_self_eq_false,
      Bool.false_eq_true, if_false, if_true, List.filter_cons, hqn, total_cons]
    omega
  | case3 n rest hk ih =>
    have hn := numberOf_eq p n
    simp only [total_append] at ih
    simp only [outside, outermostLambdas, isOutsideLambda, hk, bne_iff_ne, ne_eq, not_false_eq_true,
      if_true, if_false, List.filter_cons, total_cons]
    split
    · rw [List.countP_cons]
      omega
    · omega

/-- **The nodes that are counted in an expression are no nodes of the lambdas in it.** -/
theorem countP_expressions_add_le (n : Node) :
    n.expressions.countP p + total (numberOf p) n.lambdasBelow ≤ n.numberOf p := by
  by_cases hk : n.kind = .lambda
  -- of a lambda itself nothing is counted
  · have he : n.expressions = [] := by
      simp [expressions, outside, isOutsideLambda, hk, expressionKinds]
    have := countP_outside_add_le (p := p) (q := fun _ => false) (by simp) n.children
    have := total_numberOf_children_le (p := p) n
    simp only [he, List.countP_nil, lambdasBelow]
    omega
  · have := countP_outside_add_le (p := p) (q := fun m => m.kind ∈ expressionKinds) (fun m hm => by
      rintro h
      simp [h, expressionKinds] at hm) [n]
    rw [outermostLambdas, if_neg hk, List.append_nil, total_cons, total_nil] at this
    exact this

end Cst.Node

end CodeMetrics
