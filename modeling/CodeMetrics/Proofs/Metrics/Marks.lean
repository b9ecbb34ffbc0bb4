import CodeMetrics.Proofs.Cst.Expressions
import CodeMetrics.Proofs.Metrics.Counts

/-!
# No node is counted twice

A visit counts some nodes: a loop counts itself and the operators in its header, a try statement
counts its catch clauses, and so on. `Build.Visit.marked` lists them, and this file shows that over
all visits of a body no node is listed twice. It is said with numbers: for every property of nodes,
the marked nodes with the property are at most the nodes of the tree with it
(`Build.Visit.total_marked_le`).

One step is enough for it. What a visit marks and what the visits that it leads to hold are
different parts of the visited node (`Build.Visit.marked_add_next_le`): the operators of a header
stand outside of the lambdas in it, the parts of a construct are children in different roles, and a
body that were itself a catch clause would be at fault.
-/

namespace CodeMetrics.Build.Visit

open Cst Node

/-- **The nodes that a visit counts.** -/
def marked (v : Visit) : List Node :=
  match v.construct with
  | .directive | .braces | .group | .labeled | .clause => []
  | .lambda | .case => [v.node]
  | .ifElse | .switch =>
    v.node :: (v.node.childWithRole? .condition).toList.flatMap expressions
  | .loop => v.node :: v.headers.flatMap expressions
  | .tryCatch => v.node.childrenOfKind .catchClause
  | .plain => v.node.expressions

section

variable (p : Node → Bool)

/-- The number of nodes with a property that a visit may count, now or later. -/
def holds (v : Visit) : Nat := v.node.numberOf p

/-- The number of nodes with a property among those counted in headers. -/
def headed (hs : List Node) : Nat := total (fun h => h.expressions.countP p) hs

theorem countP_flatMap_expressions (hs : List Node) :
    (hs.flatMap expressions).countP p = headed p hs := by
  induction hs with
  | nil => rfl
  | cons h hs ih => simp [headed, ih]

theorem total_holds_map (ns : List Node) {f : Node → Visit} (hf : ∀ n, (f n).node = n) :
    total (holds p) (ns.map f) = total (numberOf p) ns := by
  rw [total_map]
  simp only [holds, hf]

theorem total_holds_beside (v : Visit) (q : Position) (ns : List Node) :
    total (holds p) (ns.map (v.beside q)) = total (numberOf p) ns :=
  total_holds_map p ns fun _ => rfl

theorem total_holds_enclosed (v : Visit) (n : Node) (role : Role) :
    total (holds p) (v.enclosed n role) = total (numberOf p) (n.childWithRole? role).toList :=
  total_holds_map p _ fun _ => rfl

/-- What is counted in headers, and what the lambdas in them hold. -/
theorem headed_add_lambdas_le (v : Visit) (hs : List Node) :
    headed p hs + total (holds p) (hs.flatMap v.lambdasIn) ≤ total (numberOf p) hs := by
  rw [total_flatMap, headed, ← total_add]
  refine total_le_total fun h _ => ?_
  rw [lambdasIn, total_holds_beside]
  exact countP_expressions_add_le h

theorem total_holds_items (v : Visit) :
    total (holds p) v.items ≤ total (numberOf p) (v.node.childWithRole? .body).toList := by
  rw [items, total_flatMap]
  refine total_le_total fun b _ => ?_
  rw [total_holds_map p _ fun _ => rfl]
  exact total_numberOf_children_le b

theorem total_holds_alternative (v : Visit) :
    total (holds p) ((alternative? v.node).toList.map v.visitAlternative) ≤
      total (numberOf p) (v.node.childWithRole? .alternative).toList := by
  rw [total_holds_map p _ fun n => by unfold visitAlternative; split <;> rfl, alternative?]
  cases v.node.childWithRole? .alternative with
  | none => exact Nat.le_refl _
  | some a =>
    simp only [Option.bind_some, Option.toList_some, total_cons, total_nil, Nat.add_zero]
    split
    · cases hc : a.children with
      | nil => exact Nat.zero_le _
      | cons c cs =>
        have := numberOf_le_of_mem_children (p := p) (n := a) (c := c) (by simp [hc])
        simpa using this
    · simp

/-! ### One visit -/

variable {p} {v : Visit}

theorem marked_add_next_le_of_ifElse (hc : v.construct = .ifElse) :
    v.marked.countP p + total (holds p) v.next ≤ v.node.numberOf p := by
  have hheader := headed_add_lambdas_le p v (v.node.childWithRole? .condition).toList
  have halternative := total_holds_alternative p v
  have hroles := v.node.total_childWithRole?_le (numberOf p)
    [.condition, .consequence, .alternative] (by decide)
  have hnode := numberOf_eq p v.node
  simp only [total_cons, total_nil, Nat.add_zero] at hroles
  simp only [marked, next, hc, List.countP_cons, countP_flatMap_expressions, total_append,
    total_holds_enclosed, conditionLambdas]
  omega

theorem marked_add_next_le_of_switch (hc : v.construct = .switch) :
    v.marked.countP p + total (holds p) v.next ≤ v.node.numberOf p := by
  have hheader := headed_add_lambdas_le p v (v.node.childWithRole? .condition).toList
  have hitems := total_holds_items p v
  have hroles := v.node.total_childWithRole?_le (numberOf p) [.condition, .body] (by decide)
  have hnode := numberOf_eq p v.node
  simp only [total_cons, total_nil, Nat.add_zero] at hroles
  simp only [marked, next, hc, List.countP_cons, countP_flatMap_expressions, total_append,
    conditionLambdas]
  omega

theorem marked_add_next_le_of_loop (hc : v.construct = .loop) :
    v.marked.countP p + total (holds p) v.next ≤ v.node.numberOf p := by
  have hheader := headed_add_lambdas_le p v v.headers
  have hbody := v.node.total_body_add_le (numberOf p)
  have hnode := numberOf_eq p v.node
  simp only [marked, next, hc, List.countP_cons, countP_flatMap_expressions, total_append,
    total_holds_enclosed]
  rw [headers] at hheader ⊢
  omega

/-- A catch clause, and what its body holds. -/
theorem countP_clauses_add_le (v : Visit) (cs : List Node) :
    cs.countP p + total (holds p) (cs.map fun c => v.enclosed c .body).flatten ≤
      total (numberOf p) cs := by
  induction cs with
  | nil => exact Nat.le_refl _
  | cons c cs ih =>
    have hbody := c.total_body_add_le (numberOf p)
    have hnode := numberOf_eq p c
    simp only [List.map_cons, List.flatten_cons, List.countP_cons, total_append, total_cons,
      total_holds_enclosed]
    omega

theorem marked_add_next_le_of_tryCatch (hc : v.construct = .tryCatch)
    (hnext : ∀ w ∈ v.next, ∀ e, ¬w.Offends e) :
    v.marked.countP p + total (holds p) v.next ≤ v.node.numberOf p := by
  have hclauses := countP_clauses_add_le (p := p) v (v.node.childrenOfKind .catchClause)
  have hfilter := total_filter_add (f := numberOf p) (fun c => c.kind == .catchClause)
    v.node.children
  have hnode := numberOf_eq p v.node
  -- a body that is a catch clause is no statement
  have hbody : total (numberOf p) (v.node.childWithRole? .body).toList ≤
      total (numberOf p) (v.node.children.filter fun c => !(c.kind == .catchClause)) := by
    cases hb : v.node.childWithRole? .body with
    | none => exact Nat.zero_le _
    | some b =>
      refine total_le_of_subperm (List.singleton_subperm_iff.2 (List.mem_filter.2 ?_))
      refine ⟨mem_of_childWithRole? hb, ?_⟩
      by_contra hk
      have hw : v.below .body b ∈ v.next := by simp [next, hc, enclosed, hb]
      refine hnext _ hw _ (HasFault.misplacedClause ?_).offends
      have hk : b.kind = .catchClause := by simpa using hk
      simp [construct, below, hk, Construct.ofKind]
  simp only [marked, next, hc, total_append, total_holds_enclosed, handlers]
  rw [childrenOfKind] at hclauses ⊢
  omega

theorem total_numberOf_filter_le (q : Node → Bool) (n : Node) :
    total (numberOf p) (n.children.filter q) ≤ total (numberOf p) n.children :=
  total_le_of_subperm List.filter_sublist.subperm

/-- **What a visit counts, and what it leads to, are different parts of its node.** -/
theorem marked_add_next_le (hnext : ∀ w ∈ v.next, ∀ e, ¬w.Offends e) :
    v.marked.countP p + total (holds p) v.next ≤ v.node.numberOf p := by
  have hnode := numberOf_eq p v.node
  cases hc : v.construct
  case ifElse => exact marked_add_next_le_of_ifElse hc
  case loop => exact marked_add_next_le_of_loop hc
  case switch => exact marked_add_next_le_of_switch hc
  case tryCatch => exact marked_add_next_le_of_tryCatch hc hnext
  case directive | clause => simp [marked, next, hc]
  case plain =>
    simp only [marked, next, hc, lambdasIn, total_holds_beside]
    exact countP_expressions_add_le v.node
  case lambda =>
    have hbody := v.node.total_body_add_le (numberOf p)
    simp only [marked, next, hc, List.countP_cons, List.countP_nil, total_holds_beside]
    omega
  case braces =>
    simp only [marked, next, hc, List.countP_nil, total_holds_beside]
    omega
  case group | labeled | case =>
    simp only [marked, next, hc, List.countP_cons, List.countP_nil, total_holds_beside, groupItems]
    refine Nat.le_trans (Nat.add_le_add_left (total_numberOf_filter_le _ v.node) _) ?_
    omega

/-! ### All visits -/

/-- **No node is counted twice**: whatever the property, the counted nodes that have it are at most
the nodes of the tree that have it. -/
theorem total_marked_le (h : ∀ e, ¬Faults v.visits e) :
    total (fun w => w.marked.countP p) v.visits ≤ v.node.numberOf p := by
  induction v using visits.induct with
  | case1 v ih =>
    rw [visits_eq] at h ⊢
    have hfaults : ∀ w ∈ v.next, ∀ e, ¬Faults w.visits e := by
      rintro w hw e ⟨u, hu, he⟩
      exact h e ⟨u, List.mem_cons_of_mem v (List.mem_flatMap.2 ⟨w, hw, hu⟩), he⟩
    have hnext : total (fun w => w.marked.countP p) (v.next.flatMap visits) ≤
        total (holds p) v.next := by
      rw [total_flatMap]
      exact total_le_total fun w hw => ih ⟨w, hw⟩ (hfaults w hw)
    have hstep := marked_add_next_le (v := v) (p := p) fun w hw e he =>
      hfaults w hw e ⟨w, mem_visits_self w, he⟩
    rw [total_cons]
    omega

end

end CodeMetrics.Build.Visit
