import CodeMetrics.Proofs.Cst.Expressions
import CodeMetrics.Proofs.Cst.Sites
import Mathlib.Data.List.Pairwise

/-!
# What a traversal reaches

A traversal goes down from a node and stops at the nodes that it does not enter. `Cst.Site.reached`
lists the sites it meets, by recursion over the tree; they are the sites with no node above them
that is not entered (`Cst.Site.reached_eq_filter`), in document order. The two traversals of the
library keep pending nodes instead, and each of them is compared with this list over any pending
nodes: the one that counts (`Cst.Site.countPending_map_node`) and the one that looks for lambdas
(`Cst.Site.outermostLambdas_map_node`).

The sites that are reached, and those below a site where the traversal stops, are the sites of the
tree, each once (`Cst.Site.sites_perm`). Since expressions are counted up to the lambdas in them,
and the lambdas found are those at which the count stops, no node is left out and none is counted
twice.
-/

namespace CodeMetrics.Cst

open Node

namespace Site

/-! ### Above and below -/

/-- The sites strictly below a site, in document order. -/
def below (s : Site) : List Site := s.children.flatMap sites

variable {s t c : Site}

theorem sites_eq_cons_below (s : Site) : s.sites = s :: s.below := sites_eq s

theorem below_subset_sites (s : Site) : s.below ⊆ s.sites := by
  rw [sites_eq_cons_below]
  exact List.subset_cons_self s s.below

theorem map_node_below (s : Site) : s.below.map node = s.node.nodesBelow := by
  have hnodes := map_node_sites s
  rw [sites_eq_cons_below, nodes_eq, List.map_cons] at hnodes
  exact (List.cons.inj hnodes).2

theorem length_path_lt_of_mem_below (h : t ∈ s.below) : s.path.length < t.path.length := by
  obtain ⟨c, hc, ht⟩ := List.mem_flatMap.1 h
  have hlength := (path_prefix_of_mem_sites ht).length_le
  rw [length_path_of_mem_children hc] at hlength
  omega

/-- Nothing in a tree is above its root. -/
theorem not_mem_below_of_mem_sites {u : Site} (hu : u ∈ s.sites) : s ∉ u.below := by
  intro hs
  have hlength := (path_prefix_of_mem_sites hu).length_le
  have hlt := length_path_lt_of_mem_below hs
  omega

/-- The trees of different children have no site in common. -/
theorem eq_of_mem_sites {d : Site} (hc : c ∈ s.children) (hd : d ∈ s.children) (htc : t ∈ c.sites)
    (htd : t ∈ d.sites) : c = d := by
  have hnodup := nodup_sites s
  rw [sites_eq, List.nodup_cons, List.nodup_flatMap] at hnodup
  have : Std.Symm (Function.onFun List.Disjoint sites) := ⟨fun _ _ h _ hu ht => h ht hu⟩
  by_contra hne
  exact hnodup.2.2.forall hc hd hne htc htd

theorem mem_sites_of_mem_below {u : Site} (hu : u ∈ s.sites) (ht : t ∈ u.below) : t ∈ s.sites := by
  induction s using sites.induct with
  | case1 s ih =>
    rw [sites_eq] at hu
    rcases List.mem_cons.1 hu with rfl | hu
    · exact below_subset_sites u ht
    · obtain ⟨d, hd, hu⟩ := List.mem_flatMap.1 hu
      exact mem_sites_of_mem_children hd (ih ⟨d, hd⟩ hu)

/-- Above a site and strictly below the root are the sites above it in the tree of a child. -/
theorem forall_below_iff {P : Site → Prop} (hc : c ∈ s.children) (ht : t ∈ c.sites) :
    (∀ u ∈ s.below, t ∈ u.below → P u) ↔ ∀ u ∈ c.sites, t ∈ u.below → P u := by
  constructor
  · intro h u hu
    exact h u (List.mem_flatMap.2 ⟨c, hc, hu⟩)
  · intro h u hu htu
    obtain ⟨d, hd, hud⟩ := List.mem_flatMap.1 hu
    obtain rfl : c = d := eq_of_mem_sites hc hd ht (mem_sites_of_mem_below hud htu)
    exact h u hud htu

/-! ### Reached sites -/

variable (enter : Node → Bool)

/-- **The sites that are reached** from a site, in document order: the site itself, and what is
reached from its children if it is entered. -/
def reached (s : Site) : List Site :=
  s :: if enter s.node then s.children.attach.flatMap fun t => t.1.reached else []
termination_by s.node.size
decreasing_by exact size_lt_of_mem_children (node_mem_children t.2)

theorem reached_eq (s : Site) :
    s.reached enter = s :: if enter s.node then s.children.flatMap (reached enter) else [] := by
  rw [reached]
  simp

/-- Whether every site above another one, from a root on, is entered. -/
def IsOpen (s t : Site) : Prop := ∀ u ∈ s.sites, t ∈ u.below → enter u.node

theorem isOpen_self (s : Site) : IsOpen enter s s :=
  fun _ hu hs => absurd hs (not_mem_below_of_mem_sites hu)

/-- A site of the tree of a child is open if the root is entered and it is open in that tree. -/
theorem isOpen_child_iff (hc : c ∈ s.children) (ht : t ∈ c.sites) :
    IsOpen enter s t ↔ enter s.node ∧ IsOpen enter c t := by
  rw [IsOpen, IsOpen, ← forall_below_iff hc ht, sites_eq_cons_below, List.forall_mem_cons]
  refine and_congr_left fun _ => ⟨fun h => h ?_, fun h _ => h⟩
  exact List.mem_flatMap.2 ⟨c, hc, ht⟩

open Classical in
/-- **The sites that are reached** are those with no site above them that is not entered. -/
theorem reached_eq_filter (s : Site) :
    s.reached enter = s.sites.filter fun t => IsOpen enter s t := by
  induction s using sites.induct with
  | case1 s ih =>
    rw [reached_eq, sites_eq, List.filter_cons_of_pos (by simpa using isOpen_self enter s),
      List.filter_flatMap]
    congr 1
    split
    · next hs =>
      refine List.flatMap_congr fun c hc => ?_
      rw [ih ⟨c, hc⟩]
      refine List.filter_congr fun t ht => ?_
      simp [isOpen_child_iff enter hc ht, hs]
    · next hs =>
      refine (List.flatMap_eq_nil_iff.2 fun c hc => ?_).symm
      refine List.filter_eq_nil_iff.2 fun t ht => ?_
      simp [isOpen_child_iff enter hc ht, hs]

/-- **What is reached, and what lies below the sites that are not entered**, are the sites of the
tree, each once. -/
theorem sites_perm (s : Site) : s.sites.Perm
    (s.reached enter ++ ((s.reached enter).filter fun t => !enter t.node).flatMap below) := by
  induction s using sites.induct with
  | case1 s ih =>
    rw [reached_eq, sites_eq]
    split
    · next hs =>
      have hbelow : (s.children.flatMap sites).Perm (s.children.flatMap (reached enter) ++
          s.children.flatMap fun c =>
            ((c.reached enter).filter fun t => !enter t.node).flatMap below) :=
        (List.Perm.flatMap_left _ fun c hc => ih ⟨c, hc⟩).trans
          (List.flatMap_append_perm _ _ _).symm
      rw [List.filter_cons_of_neg (by simpa using hs), List.filter_flatMap, List.flatMap_assoc]
      exact hbelow.cons s
    · next hs =>
      rw [List.filter_cons_of_pos (by simpa using hs)]
      simp [below]

/-! ### Traversals with pending nodes -/

variable (p : Node → Bool)

theorem sizeAll_children_append_lt (s : Site) (ss : List Site) :
    sizeAll ((s.children ++ ss).map node) < sizeAll ((s :: ss).map node) := by
  rw [List.map_append, map_node_children, sizeAll_append, List.map_cons, sizeAll_cons, size_eq]
  omega

theorem sizeAll_lt_cons (s : Site) (ss : List Site) :
    sizeAll (ss.map node) < sizeAll ((s :: ss).map node) := by
  have hpos := size_pos s.node
  rw [List.map_cons, sizeAll_cons]
  omega

/-- **The traversal that counts** meets the sites that are reached from the pending ones. -/
theorem countPending_map_node (ss : List Site) (count : Nat) :
    countPending p enter (ss.map node) count =
      count + (ss.flatMap (reached enter)).countP fun t => p t.node := by
  induction hn : sizeAll (ss.map node) using Nat.strongRecOn generalizing ss count with
  | ind n ih =>
    subst hn
    cases ss with
    | nil => simp [countPending]
    | cons s ss =>
      rw [List.map_cons, countPending, List.flatMap_cons, List.countP_append, reached_eq,
        List.countP_cons]
      split
      · have hstep := ih _ (sizeAll_children_append_lt s ss) (s.children ++ ss)
          (if p s.node then count + 1 else count) rfl
        rw [List.map_append, map_node_children] at hstep
        rw [hstep, List.flatMap_append, List.countP_append]
        split <;> omega
      · rw [ih _ (sizeAll_lt_cons s ss) ss _ rfl]
        split <;> simp
        omega

theorem countWhere_node (s : Site) :
    s.node.countWhere p enter = (s.reached enter).countP fun t => p t.node := by
  have hs := countPending_map_node enter p [s] 0
  rw [List.flatMap_singleton, Nat.zero_add] at hs
  exact hs

theorem total_countWhere_children (s : Site) :
    total (fun c => c.countWhere p enter) s.node.children =
      (s.children.flatMap (reached enter)).countP fun t => p t.node := by
  rw [← map_node_children, total_map, total_eq_sum, List.countP_flatMap]
  simp only [countWhere_node]
  rfl

/-- Whether a site is that of a lambda. -/
def isLambda (t : Site) : Bool := t.node.kind == .lambda

/-- **The traversal that looks for lambdas** finds those that are reached from the pending sites up
to the first lambda. -/
theorem outermostLambdas_map_node (ss : List Site) :
    outermostLambdas (ss.map node) =
      ((ss.flatMap (reached isOutsideLambda)).filter isLambda).map node := by
  induction hn : sizeAll (ss.map node) using Nat.strongRecOn generalizing ss with
  | ind n ih =>
    subst hn
    cases ss with
    | nil => simp [outermostLambdas]
    | cons s ss =>
      rw [List.map_cons, outermostLambdas, List.flatMap_cons, reached_eq]
      split
      · next hk =>
        rw [ih _ (sizeAll_lt_cons s ss) ss rfl]
        simp [isOutsideLambda, isLambda, hk]
      · next hk =>
        have hstep := ih _ (sizeAll_children_append_lt s ss) (s.children ++ ss) rfl
        rw [List.map_append, map_node_children] at hstep
        rw [hstep]
        simp [isOutsideLambda, isLambda, hk]

/-- The lambdas strictly below a site that are reached without passing another one. -/
def lambdas (s : Site) : List Site :=
  (s.children.flatMap (reached isOutsideLambda)).filter isLambda

theorem lambdasBelow_eq_map_node (s : Site) : s.node.lambdasBelow = s.lambdas.map node := by
  rw [lambdasBelow, ← map_node_children, outermostLambdas_map_node]
  rfl

/-- Strictly below a site and with no lambda strictly between. -/
def IsOutermost (s t : Site) : Prop := ∀ u ∈ s.below, t ∈ u.below → ¬u.isLambda

open Classical in
/-- **The lambdas found below a site** are those with no lambda between. -/
theorem lambdas_eq_filter (s : Site) :
    s.lambdas = s.below.filter fun t => t.isLambda ∧ IsOutermost s t := by
  rw [lambdas, below, List.filter_flatMap, List.filter_flatMap]
  refine List.flatMap_congr fun c hc => ?_
  rw [reached_eq_filter, List.filter_filter]
  refine List.filter_congr fun t ht => ?_
  have hopen : IsOpen isOutsideLambda c t ↔ IsOutermost s t := by
    rw [IsOutermost, forall_below_iff hc ht, IsOpen]
    simp [isOutsideLambda, isLambda]
  simp [hopen]

/-- The lambdas below a site that is none are those at which the traversal stops. -/
theorem lambdas_eq_of_ne (h : s.node.kind ≠ .lambda) :
    s.lambdas = (s.reached isOutsideLambda).filter fun t => !isOutsideLambda t.node := by
  have hs : s.isLambda = false := by simpa [isLambda] using h
  have hstop : isLambda = fun t : Site => !isOutsideLambda t.node := by
    funext t
    simp [isLambda, isOutsideLambda, bne]
  rw [← hstop, reached_eq, if_pos (by simpa [isOutsideLambda] using h),
    List.filter_cons_of_neg (by simp [hs]), lambdas]

end Site

namespace Node

open Site

/-- **Counting is a recursion over the tree.** -/
theorem countWhere_eq (n : Node) (p enter : Node → Bool) :
    n.countWhere p enter = (if p n then 1 else 0) +
      if enter n then total (fun c => c.countWhere p enter) n.children else 0 := by
  change (root n).node.countWhere p enter = (if p (root n).node then 1 else 0) +
    if enter (root n).node then total (fun c => c.countWhere p enter) (root n).node.children else 0
  rw [countWhere_node, total_countWhere_children, reached_eq, List.countP_cons, Nat.add_comm]
  congr 1
  split <;> rfl

theorem countWhere_le_length_nodes (n : Node) (p enter : Node → Bool) :
    n.countWhere p enter ≤ n.nodes.length := by
  have hreached : ((root n).reached enter).Sublist (root n).sites := by
    classical
    rw [reached_eq_filter]
    exact List.filter_sublist
  calc n.countWhere p enter = ((root n).reached enter).countP fun t => p t.node :=
        countWhere_node enter p (root n)
    _ ≤ ((root n).reached enter).length := List.countP_le_length
    _ ≤ (root n).sites.length := hreached.length_le
    _ = n.nodes.length := by rw [← List.length_map (f := Site.node), map_node_sites]; rfl

theorem numberOf_eq_countP_sites (p : Node → Bool) (s : Site) :
    s.node.numberOf p = s.sites.countP fun t => p t.node := by
  rw [numberOf, ← map_node_sites, List.countP_map]
  rfl

theorem total_numberOf_children_eq (p : Node → Bool) (s : Site) :
    total (numberOf p) s.node.children = s.below.countP fun t => p t.node := by
  rw [← countP_flatMap_nodes, ← nodesBelow, ← map_node_below, List.countP_map]
  rfl

/-- **The count and the lambdas share the tree out**: what is not counted lies below a lambda. -/
theorem numberOf_eq_countWhere_add (p : Node → Bool) {n : Node} (h : n.kind ≠ .lambda) :
    n.numberOf p = n.countWhere p isOutsideLambda +
      total (fun l => total (numberOf p) l.children) n.lambdasBelow := by
  have hperm := sites_perm isOutsideLambda (root n)
  rw [← lambdas_eq_of_ne (s := root n) h] at hperm
  have hlambdas : total (fun l => total (numberOf p) l.children) n.lambdasBelow =
      ((root n).lambdas.flatMap below).countP fun t => p t.node := by
    rw [show n.lambdasBelow = (root n).lambdas.map node from lambdasBelow_eq_map_node (root n),
      total_map, total_eq_sum, List.countP_flatMap]
    simp only [total_numberOf_children_eq]
    rfl
  have hnumber := numberOf_eq_countP_sites p (root n)
  have hcount := countWhere_node isOutsideLambda p (root n)
  rw [hperm.countP_eq, List.countP_append, ← hcount, ← hlambdas] at hnumber
  exact hnumber

open Classical in
/-- **Counts end at lambdas, and lambdas are where they end.** The number of nodes with a property
is counted by recursion, over the nodes with nothing above them that is not entered; it is no more
than the nodes of the tree. The lambdas found below a node are those with no lambda strictly
between, in document order. If the node is no lambda itself, the nodes outside of lambdas and the
nodes strictly below the lambdas found are the nodes of the tree, each once; so what they hold of
nodes with a property adds up to what the tree holds. -/
theorem countWhere_add_lambdasBelow (n : Node) (p : Node → Bool) :
    (∀ enter : Node → Bool,
      n.countWhere p enter = (if p n then 1 else 0) +
        (if enter n then total (fun c => c.countWhere p enter) n.children else 0) ∧
      n.countWhere p enter =
        ((root n).sites.filter fun t => IsOpen enter (root n) t).countP (fun t => p t.node) ∧
      n.countWhere p enter ≤ n.nodes.length) ∧
    n.lambdasBelow =
      ((root n).below.filter fun t => t.isLambda ∧ IsOutermost (root n) t).map Site.node ∧
    (n.kind ≠ .lambda →
      (root n).sites.Perm (((root n).sites.filter fun t => IsOpen isOutsideLambda (root n) t) ++
        ((root n).below.filter fun t => t.isLambda ∧ IsOutermost (root n) t).flatMap below) ∧
      n.numberOf p = n.countWhere p isOutsideLambda +
        total (fun l => total (numberOf p) l.children) n.lambdasBelow) := by
  refine ⟨fun enter => ⟨countWhere_eq n p enter, ?_, countWhere_le_length_nodes n p enter⟩, ?_, ?_⟩
  · rw [← reached_eq_filter]
    exact countWhere_node enter p (root n)
  · rw [← lambdas_eq_filter]
    exact lambdasBelow_eq_map_node (root n)
  · intro h
    refine ⟨?_, numberOf_eq_countWhere_add p h⟩
    rw [← reached_eq_filter, ← lambdas_eq_filter, lambdas_eq_of_ne h]
    exact sites_perm isOutsideLambda (root n)

/-- The condition `a && f([] { return b && [] { return c && d; }(); })`, as far as its operators and
lambdas go. -/
def nestedOperators : Node :=
  .bare .logicalExpression none [
    .bare .lambda none [
      .bare .logicalExpression none [.bare .lambda none [.bare .logicalExpression none []]]]]

theorem countWhere_add_lambdasBelow_nested :
    nestedOperators.kind ≠ .lambda ∧ nestedOperators.countLogical = 1 ∧
      nestedOperators.lambdasBelow.length = 1 ∧
      nestedOperators.numberOf (fun m => m.kind == .logicalExpression) =
        nestedOperators.countLogical + total
          (fun l => total (numberOf fun m => m.kind == .logicalExpression) l.children)
          nestedOperators.lambdasBelow := by
  have h : nestedOperators.kind ≠ .lambda := by decide
  exact ⟨h, by cbv, by cbv, ((countWhere_add_lambdasBelow nestedOperators _).2.2 h).2⟩

end Node

end CodeMetrics.Cst
