import CodeMetrics.Proofs.Cst.Nodes

/-!
# The spans of a tree

How the spans of the nodes of a tree lie to each other, if the tree is that of a text: those of
children within that of their parent (`Cst.Node.SpansNest`), and those of siblings one after the
other (`Cst.Node.SpansInOrder`). The first carries over from children to all nodes below, so that of
two siblings everything in the first lies before everything in the second.
-/

namespace CodeMetrics

theorem Span.contains_trans {r s t : Span} (hrs : r.contains s) (hst : s.contains t) :
    r.contains t := by
  simp only [contains, Bool.and_eq_true, decide_eq_true_eq] at *
  omega

theorem Span.contains_refl (s : Span) : s.contains s := by
  simp [contains]

/-- **A span that ends before another one begins**, or where it begins. -/
def Span.Before (s t : Span) : Prop := s.stop ≤ t.start

theorem Span.Before.of_contains {r s t u : Span} (h : r.Before s) (hr : r.contains t)
    (hs : s.contains u) : t.Before u := by
  simp only [contains, Bool.and_eq_true, decide_eq_true_eq, Before] at *
  omega

namespace Cst.Node

/-- Whether every node of a tree lies in the span of its parent. -/
def SpansNest (n : Node) : Prop := ∀ m ∈ n.nodes, ∀ c ∈ m.children, m.span.contains c.span

namespace SpansNest

variable {n m : Node}

theorem of_mem_nodes (h : n.SpansNest) (hm : m ∈ n.nodes) : m.SpansNest :=
  fun k hk => h k (nodes_subset_of_mem hm hk)

theorem of_mem_nodesBelow (h : n.SpansNest) (hm : m ∈ n.nodesBelow) : m.SpansNest :=
  h.of_mem_nodes (nodesBelow_subset_nodes n hm)

theorem contains_of_mem_nodesBelow {n m : Node} (h : n.SpansNest) (hm : m ∈ n.nodesBelow) :
    n.span.contains m.span := by
  obtain ⟨c, hc, hm⟩ := mem_nodesBelow.1 hm
  have hnc := h n (mem_nodes_self n) c hc
  rw [nodes_eq] at hm
  rcases List.mem_cons.1 hm with rfl | hm
  · exact hnc
  · have hcn := mem_nodesBelow_of_mem_children hc
    exact Span.contains_trans hnc ((h.of_mem_nodesBelow hcn).contains_of_mem_nodesBelow hm)
termination_by n.size
decreasing_by exact size_lt_of_mem_children hc

theorem contains_of_mem_nodes (h : n.SpansNest) (hm : m ∈ n.nodes) : n.span.contains m.span := by
  rw [nodes_eq] at hm
  rcases List.mem_cons.1 hm with rfl | hm
  · exact m.span.contains_refl
  · exact h.contains_of_mem_nodesBelow hm

end SpansNest

/-- **A tree whose spans come in the order of a text**: no node ends before it begins, every node
lies in the span of its parent, and siblings come one after the other. -/
structure SpansInOrder (n : Node) : Prop where
  start_le_stop : ∀ m ∈ n.nodes, m.span.start ≤ m.span.stop
  nest : n.SpansNest
  siblings : ∀ m ∈ n.nodes, m.children.Pairwise fun a b => a.span.Before b.span

namespace SpansInOrder

variable {n m : Node}

theorem of_mem_nodes (h : n.SpansInOrder) (hm : m ∈ n.nodes) : m.SpansInOrder where
  start_le_stop k hk := h.start_le_stop k (nodes_subset_of_mem hm hk)
  nest := h.nest.of_mem_nodes hm
  siblings k hk := h.siblings k (nodes_subset_of_mem hm hk)

theorem of_mem_children (h : n.SpansInOrder) (hm : m ∈ n.children) : m.SpansInOrder :=
  h.of_mem_nodes (nodesBelow_subset_nodes n (mem_nodesBelow_of_mem_children hm))

end SpansInOrder

end Cst.Node

end CodeMetrics
