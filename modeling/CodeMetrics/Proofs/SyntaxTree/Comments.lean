import CodeMetrics.Cst.OfSyntax

/-!
# The comments of a syntax tree

A `SyntaxTree.Site` is a node below another one together with the nodes between them, and
`SyntaxTree.sites` lists all nodes below a node in this way, in document order. The comments of a
tree are the sites of a comment with no comment around it (`SyntaxTree.commentSpans`). Collecting
comments over pending nodes finds just these (`Cst.harvest_eq`), and without its comments
(`SyntaxTree.withoutComments`) a tree has none of them.
-/

namespace CodeMetrics

namespace SyntaxTree

theorem sizeOf_lt_of_mem_children {n c : SyntaxTree} (h : c ∈ n.children) : sizeOf c < sizeOf n :=
  Nat.lt_trans (List.sizeOf_lt_of_mem h) n.sizeOf_children_lt

/-- A node on the first line of a text. -/
def onFirstLine (kind : String) (named : Bool) (field : Option String) (start stop : Nat)
    (children : List SyntaxTree) : SyntaxTree where
  kind := kind
  named := named
  field := field
  isError := false
  isMissing := false
  hasError := false
  start := ⟨start, 0, start⟩
  stop := ⟨stop, 0, stop⟩
  children := children

/-- A comment on the first line of a text. -/
def commentAt (start stop : Nat) : SyntaxTree := onFirstLine "comment" true none start stop []

/-! ### The nodes below a node -/

/-- A node below another one, with the nodes between them, outermost first. -/
structure Site where
  between : List SyntaxTree
  node : SyntaxTree

/-- A node below a child, as a node below the parent. -/
def Site.under (c : SyntaxTree) (s : Site) : Site := ⟨c :: s.between, s.node⟩

/-- **The nodes below a node**, in document order. -/
def sites (n : SyntaxTree) : List Site :=
  n.children.attach.flatMap fun c => ⟨[], c.1⟩ :: c.1.sites.map (Site.under c.1)
termination_by sizeOf n
decreasing_by exact sizeOf_lt_of_mem_children c.2

theorem sites_eq (n : SyntaxTree) :
    n.sites = n.children.flatMap fun c => ⟨[], c⟩ :: c.sites.map (Site.under c) := by
  rw [sites]
  simp

theorem mem_sites_of_mem_children {n c : SyntaxTree} (h : c ∈ n.children) : ⟨[], c⟩ ∈ n.sites := by
  rw [sites_eq]
  exact List.mem_flatMap.2 ⟨c, h, List.mem_cons_self⟩

theorem under_mem_sites {n c : SyntaxTree} {s : Site} (h : c ∈ n.children) (hs : s ∈ c.sites) :
    s.under c ∈ n.sites := by
  rw [sites_eq]
  exact List.mem_flatMap.2 ⟨c, h, List.mem_cons_of_mem _ (List.mem_map_of_mem hs)⟩

/-- The nodes of a tree, in document order. -/
def nodes (n : SyntaxTree) : List SyntaxTree := n :: n.sites.map Site.node

theorem nodes_subset_of_mem_children {n c : SyntaxTree} (h : c ∈ n.children) :
    c.nodes ⊆ n.nodes := by
  intro m hm
  rcases List.mem_cons.1 hm with rfl | hm
  · exact List.mem_cons_of_mem _ (List.mem_map.2 ⟨_, mem_sites_of_mem_children h, rfl⟩)
  · obtain ⟨s, hs, rfl⟩ := List.mem_map.1 hm
    exact List.mem_cons_of_mem _ (List.mem_map.2 ⟨_, under_mem_sites h hs, rfl⟩)

/-! ### Comments -/

section Comments

variable (v : Vocabulary)

/-- Whether a node is a comment, and none of those between is. -/
def Site.isOuterComment (s : Site) : Bool :=
  v.isComment s.node.kind && s.between.all fun n => !v.isComment n.kind

/-- **The spans of the comments below a node**, those inside of comments excepted, in document
order. -/
def commentSpans (n : SyntaxTree) : List Span :=
  (n.sites.filter (Site.isOuterComment v)).map fun s => Cst.spanOf s.node

/-- The spans of the comments of a tree: its own, if its root is a comment. -/
def commentsOf (n : SyntaxTree) : List Span :=
  if v.isComment n.kind then [Cst.spanOf n] else n.commentSpans v

theorem isOuterComment_under (c : SyntaxTree) (s : Site) :
    (s.under c).isOuterComment v = (!v.isComment c.kind && s.isOuterComment v) := by
  simp only [Site.isOuterComment, Site.under, List.all_cons]
  rw [Bool.and_left_comm]

theorem commentSpans_eq (n : SyntaxTree) :
    n.commentSpans v = n.children.flatMap (commentsOf v) := by
  rw [commentSpans, sites_eq, List.filter_flatMap, List.map_flatMap]
  congr 1
  funext c
  have hself : Site.isOuterComment v ⟨[], c⟩ = v.isComment c.kind := by simp [Site.isOuterComment]
  have hunder : Site.isOuterComment v ∘ Site.under c =
      fun s => !v.isComment c.kind && s.isOuterComment v := funext (isOuterComment_under v c)
  rw [List.filter_cons, List.filter_map, hself, hunder]
  cases hc : v.isComment c.kind with
  | true => simp [commentsOf, hc]
  | false => simp [commentsOf, hc, commentSpans, Site.under]

/-- The children of a node that are no comments. -/
def otherChildren (n : SyntaxTree) : List SyntaxTree :=
  n.children.filter fun c => !v.isComment c.kind

theorem mem_children_of_mem_otherChildren {n c : SyntaxTree} (h : c ∈ n.otherChildren v) :
    c ∈ n.children :=
  (List.mem_filter.1 h).1

/-- **A tree without the comments below its root.** -/
def withoutComments (n : SyntaxTree) : SyntaxTree :=
  { n with children := (n.otherChildren v).attach.map fun c => c.1.withoutComments }
termination_by sizeOf n
decreasing_by exact sizeOf_lt_of_mem_children (mem_children_of_mem_otherChildren v c.2)

theorem withoutComments_eq (n : SyntaxTree) :
    n.withoutComments v = { n with children := (n.otherChildren v).map (withoutComments v) } := by
  rw [withoutComments, List.attach_map_val]

@[simp] theorem kind_withoutComments (n : SyntaxTree) : (n.withoutComments v).kind = n.kind := by
  rw [withoutComments_eq]

@[simp] theorem named_withoutComments (n : SyntaxTree) :
    (n.withoutComments v).named = n.named := by
  rw [withoutComments_eq]

@[simp] theorem field_withoutComments (n : SyntaxTree) :
    (n.withoutComments v).field = n.field := by
  rw [withoutComments_eq]

@[simp] theorem hasError_withoutComments (n : SyntaxTree) :
    (n.withoutComments v).hasError = n.hasError := by
  rw [withoutComments_eq]

@[simp] theorem start_withoutComments (n : SyntaxTree) :
    (n.withoutComments v).start = n.start := by
  rw [withoutComments_eq]

@[simp] theorem stop_withoutComments (n : SyntaxTree) : (n.withoutComments v).stop = n.stop := by
  rw [withoutComments_eq]

@[simp] theorem children_withoutComments (n : SyntaxTree) :
    (n.withoutComments v).children = (n.otherChildren v).map (withoutComments v) := by
  rw [withoutComments_eq]

theorem commentSpans_withoutComments (n : SyntaxTree) :
    (n.withoutComments v).commentSpans v = [] := by
  rw [commentSpans_eq, children_withoutComments, List.flatMap_eq_nil_iff]
  intro d hd
  obtain ⟨c, hc, rfl⟩ := List.mem_map.1 hd
  have hchild := mem_children_of_mem_otherChildren v hc
  have hcomment : v.isComment c.kind = false := by simpa using (List.mem_filter.1 hc).2
  rw [commentsOf, kind_withoutComments, hcomment, if_neg Bool.false_ne_true]
  exact commentSpans_withoutComments c
termination_by sizeOf n
decreasing_by exact sizeOf_lt_of_mem_children hchild

end Comments

end SyntaxTree

namespace Cst

open SyntaxTree

/-- **Collecting comments over pending nodes** finds those of each, one after the other. -/
theorem harvest_eq (v : Vocabulary) (ns : List SyntaxTree) :
    harvest v ns = ns.flatMap (commentsOf v) := by
  fun_induction harvest v ns with
  | case1 => rfl
  | case2 n rest hn ih => simp [commentsOf, hn, ih]
  | case3 n rest hn ih =>
    rw [ih, List.flatMap_append, ← commentSpans_eq, List.flatMap_cons, commentsOf, if_neg hn]

end Cst

end CodeMetrics
