import CodeMetrics.Proofs.Cst.Nodes
import Mathlib.Data.List.Nodup

/-!
# Sites

Two nodes of a tree may be equal as values and still be different nodes. A `Cst.Site` is a node
together with the way to it from the root, which tells them apart: `Cst.Site.sites` lists the sites
of a tree in document order, as `Cst.Node.nodes` lists the nodes, and no site comes twice
(`Cst.Site.nodup_sites`).
-/

namespace CodeMetrics.Cst

/-- A node of a tree with the way to it: which child is taken at each node from the root on. The
root has no parent. -/
structure Site where
  path : List Nat
  parent? : Option Node
  node : Node

namespace Site

/-- The site of the root of a tree. -/
def root (n : Node) : Site := ⟨[], none, n⟩

/-- The sites of the children, in order. -/
def children (s : Site) : List Site :=
  s.node.children.mapIdx fun i c => ⟨s.path ++ [i], some s.node, c⟩

section Children

variable {s t : Site}

theorem map_node_children (s : Site) : s.children.map node = s.node.children := by
  refine List.ext_getElem (by simp [children]) fun i hi hi' => ?_
  simp [children]

theorem node_mem_children (h : t ∈ s.children) : t.node ∈ s.node.children :=
  map_node_children s ▸ List.mem_map_of_mem h

theorem parent?_of_mem_children (h : t ∈ s.children) : t.parent? = some s.node := by
  obtain ⟨i, hi, rfl⟩ := List.mem_mapIdx.1 h
  rfl

theorem length_path_of_mem_children (h : t ∈ s.children) :
    t.path.length = s.path.length + 1 := by
  obtain ⟨i, hi, rfl⟩ := List.mem_mapIdx.1 h
  simp

theorem path_prefix_of_mem_children (h : t ∈ s.children) : s.path <+: t.path := by
  obtain ⟨i, hi, rfl⟩ := List.mem_mapIdx.1 h
  exact List.prefix_append _ _

/-- Different children are reached on different ways. -/
theorem pairwise_path_children (s : Site) : s.children.Pairwise fun t u => t.path ≠ u.path := by
  rw [List.pairwise_iff_getElem]
  intro i j hi hj hij
  simpa [children] using Nat.ne_of_lt hij

theorem nodup_children (s : Site) : s.children.Nodup :=
  (pairwise_path_children s).imp fun hne heq => hne (congrArg path heq)

end Children

/-! ### All sites of a tree -/

/-- **The sites of a tree**, in document order. -/
def sites (s : Site) : List Site :=
  s :: s.children.attach.flatMap fun t => t.1.sites
termination_by s.node.size
decreasing_by exact Node.size_lt_of_mem_children (node_mem_children t.2)

theorem sites_eq (s : Site) : s.sites = s :: s.children.flatMap sites := by
  rw [sites]
  simp

theorem mem_sites_self (s : Site) : s ∈ s.sites := by
  rw [sites_eq]
  exact List.mem_cons_self

theorem mem_sites_of_mem_children {s t u : Site} (ht : t ∈ s.children) (hu : u ∈ t.sites) :
    u ∈ s.sites := by
  rw [sites_eq]
  exact List.mem_cons_of_mem _ (List.mem_flatMap.2 ⟨t, ht, hu⟩)

/-- The sites of a tree are those of its nodes. -/
theorem map_node_sites (s : Site) : s.sites.map node = s.node.nodes := by
  induction s using sites.induct with
  | case1 s ih =>
    have hbelow : s.children.flatMap (fun t => t.sites.map node) =
        s.children.flatMap fun t => t.node.nodes :=
      List.flatMap_congr fun t ht => ih ⟨t, ht⟩
    rw [sites_eq, List.map_cons, List.map_flatMap, hbelow, Node.nodes_eq, Node.nodesBelow,
      ← map_node_children s, List.flatMap_map]

theorem path_prefix_of_mem_sites {s t : Site} (h : t ∈ s.sites) : s.path <+: t.path := by
  induction s using sites.induct with
  | case1 s ih =>
    rw [sites_eq] at h
    rcases List.mem_cons.1 h with rfl | h
    · exact List.prefix_rfl
    · obtain ⟨u, hu, ht⟩ := List.mem_flatMap.1 h
      exact (path_prefix_of_mem_children hu).trans (ih ⟨u, hu⟩ ht)

/-- **No site of a tree comes twice.** -/
theorem nodup_sites (s : Site) : s.sites.Nodup := by
  induction s using sites.induct with
  | case1 s ih =>
    rw [sites_eq, List.nodup_cons, List.nodup_flatMap]
    refine ⟨fun hs => ?_, fun t ht => ih ⟨t, ht⟩, ?_⟩
    · obtain ⟨t, ht, hs⟩ := List.mem_flatMap.1 hs
      have hlength := (path_prefix_of_mem_sites hs).length_le
      rw [length_path_of_mem_children ht] at hlength
      omega
    · -- ways to the same site begin with the same child
      refine (pairwise_path_children s).imp_of_mem fun {t u} ht hu hne v hvt hvu => hne ?_
      have hlength : t.path.length = u.path.length := by
        rw [length_path_of_mem_children ht, length_path_of_mem_children hu]
      exact (List.prefix_of_prefix_length_le (path_prefix_of_mem_sites hvt)
        (path_prefix_of_mem_sites hvu) (Nat.le_of_eq hlength)).eq_of_length hlength

end Site

end CodeMetrics.Cst
