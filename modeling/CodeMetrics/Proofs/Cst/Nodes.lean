import CodeMetrics.Cst

/-!
# The nodes of a tree

All nodes of a structure tree in document order, `Cst.Node.nodes`, and those strictly below its
root, `Cst.Node.nodesBelow`. What a traversal meets is stated as membership in these lists; since
a node strictly below another one is smaller, they also bound the traversals.
-/

namespace CodeMetrics.Cst.Node

/-- A node without a text, at no particular place. -/
def bare (kind : Kind) (role : Option Role) (children : List Node) : Node :=
  ⟨kind, {}, role, none, children⟩

/-- A name, at no particular place. -/
def identifier (role : Role) (text : String) : Node := ⟨.identifier, {}, some role, some text, []⟩

/-- **The nodes of a tree**, in document order. -/
def nodes (n : Node) : List Node :=
  n :: n.children.attach.flatMap fun c => c.1.nodes
termination_by sizeOf n
decreasing_by exact sizeOf_lt_of_mem_children c.2

/-- The nodes strictly below a node, in document order. -/
def nodesBelow (n : Node) : List Node := n.children.flatMap nodes

theorem nodes_eq (n : Node) : n.nodes = n :: n.nodesBelow := by
  rw [nodes, nodesBelow]
  simp

theorem mem_nodes_self (n : Node) : n ∈ n.nodes := by
  rw [nodes_eq]
  exact List.mem_cons_self

theorem mem_nodesBelow {n m : Node} : m ∈ n.nodesBelow ↔ ∃ c ∈ n.children, m ∈ c.nodes :=
  List.mem_flatMap

theorem mem_nodesBelow_of_mem_children {n c : Node} (h : c ∈ n.children) : c ∈ n.nodesBelow :=
  mem_nodesBelow.2 ⟨c, h, mem_nodes_self c⟩

theorem nodesBelow_subset_nodes (n : Node) : n.nodesBelow ⊆ n.nodes := by
  rw [nodes_eq]
  exact List.subset_cons_self n n.nodesBelow

/-- The nodes of a subtree are nodes of the tree. -/
theorem nodes_subset_of_mem {n m : Node} (h : m ∈ n.nodes) : m.nodes ⊆ n.nodes := by
  induction n using nodes.induct with
  | case1 n ih =>
    rw [nodes_eq] at h
    rcases List.mem_cons.1 h with rfl | h
    · exact List.Subset.refl _
    · obtain ⟨c, hc, hm⟩ := mem_nodesBelow.1 h
      intro k hk
      exact nodesBelow_subset_nodes n (mem_nodesBelow.2 ⟨c, hc, ih ⟨c, hc⟩ hm hk⟩)

theorem nodesBelow_subset_of_mem {n m : Node} (h : m ∈ n.nodesBelow) :
    m.nodes ⊆ n.nodesBelow := by
  obtain ⟨c, hc, hm⟩ := mem_nodesBelow.1 h
  exact fun k hk => mem_nodesBelow.2 ⟨c, hc, nodes_subset_of_mem hm hk⟩

theorem size_le_sizeAll_of_mem {ns : List Node} {n : Node} (h : n ∈ ns) : n.size ≤ sizeAll ns := by
  induction ns with
  | nil => cases h
  | cons m ms ih =>
    rw [sizeAll_cons]
    rcases List.mem_cons.1 h with rfl | h
    · exact Nat.le_add_right _ _
    · exact Nat.le_trans (ih h) (Nat.le_add_left _ _)

theorem size_lt_of_mem_children {n c : Node} (h : c ∈ n.children) : c.size < n.size := by
  rw [size_eq n]
  exact Nat.lt_succ_of_le (size_le_sizeAll_of_mem h)

theorem size_le_of_mem_nodes {n m : Node} (h : m ∈ n.nodes) : m.size ≤ n.size := by
  induction n using nodes.induct with
  | case1 n ih =>
    rw [nodes_eq] at h
    rcases List.mem_cons.1 h with rfl | h
    · exact Nat.le_refl _
    · obtain ⟨c, hc, hm⟩ := mem_nodesBelow.1 h
      exact Nat.le_trans (ih ⟨c, hc⟩ hm) (Nat.le_of_lt (size_lt_of_mem_children hc))

/-- A node strictly below another one has a smaller tree. -/
theorem size_lt_of_mem_nodesBelow {n m : Node} (h : m ∈ n.nodesBelow) : m.size < n.size := by
  obtain ⟨c, hc, hm⟩ := mem_nodesBelow.1 h
  exact Nat.lt_of_le_of_lt (size_le_of_mem_nodes hm) (size_lt_of_mem_children hc)

/-! ### Lambdas -/

theorem mem_outermostLambdas {ns : List Node} {l : Node} (h : l ∈ outermostLambdas ns) :
    l.kind = .lambda ∧ ∃ n ∈ ns, l ∈ n.nodes := by
  fun_induction outermostLambdas ns with
  | case1 => simp at h
  | case2 n rest hk ih =>
    rcases List.mem_cons.1 h with rfl | h
    · exact ⟨hk, l, List.mem_cons_self, mem_nodes_self l⟩
    · obtain ⟨hl, m, hm, hlm⟩ := ih h
      exact ⟨hl, m, List.mem_cons_of_mem _ hm, hlm⟩
  | case3 n rest _ ih =>
    obtain ⟨hl, m, hm, hlm⟩ := ih h
    rcases List.mem_append.1 hm with hm | hm
    · exact ⟨hl, n, List.mem_cons_self, nodesBelow_subset_nodes n (mem_nodesBelow.2 ⟨m, hm, hlm⟩)⟩
    · exact ⟨hl, m, List.mem_cons_of_mem _ hm, hlm⟩

theorem kind_of_mem_lambdasBelow {n l : Node} (h : l ∈ n.lambdasBelow) : l.kind = .lambda :=
  (mem_outermostLambdas h).1

theorem mem_nodesBelow_of_mem_lambdasBelow {n l : Node} (h : l ∈ n.lambdasBelow) :
    l ∈ n.nodesBelow :=
  mem_nodesBelow.2 (mem_outermostLambdas h).2

end CodeMetrics.Cst.Node
