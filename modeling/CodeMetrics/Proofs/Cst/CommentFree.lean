import CodeMetrics.Proofs.Cst.Conversion
import CodeMetrics.Proofs.Text.Blank

/-!
# Structure trees without comments

Taking the comments out of a syntax tree, and blanking them in the text, changes a structure tree in
one respect: the texts of its names are read from the blanked text (`Cst.image_withoutComments`).
The text of a name that no comment meets is the same there (`Cst.Node.textIn_blankBytes`), so if
comments meet no name at all, nothing changes.

Besides the texts of names, conversion reads those of operators, which decide on the kind of a
binary expression. They are punctuation, and comments are expected to keep clear of them
(`SyntaxTree.OperatorsClear`).
-/

namespace CodeMetrics

namespace SyntaxTree

/-- The child that is the operator of a node. -/
def operator? (n : SyntaxTree) : Option SyntaxTree :=
  n.children.find? fun c => c.field == some "operator"

/-- Whether the operator of a binary expression is clear of comments: it neither is one nor meets
one. -/
def OperatorClear (v : Vocabulary) (comments : List Span) (n : SyntaxTree) : Prop :=
  n.kind = v.binary → ∀ c ∈ n.operator?,
    v.isComment c.kind = false ∧ (Cst.spanOf c).ClearOf comments

instance (v : Vocabulary) (comments : List Span) (n : SyntaxTree) :
    Decidable (n.OperatorClear v comments) :=
  inferInstanceAs (Decidable (_ → _))

/-- Whether the operators of all binary expressions of a tree are clear of comments. -/
def OperatorsClear (v : Vocabulary) (comments : List Span) (n : SyntaxTree) : Prop :=
  ∀ m ∈ n.nodes, m.OperatorClear v comments

instance (v : Vocabulary) (comments : List Span) (n : SyntaxTree) :
    Decidable (n.OperatorsClear v comments) :=
  inferInstanceAs (Decidable (∀ m ∈ n.nodes, m.OperatorClear v comments))

variable {v : Vocabulary} {comments : List Span} {n : SyntaxTree}

theorem OperatorsClear.of_mem_children (h : n.OperatorsClear v comments) {c : SyntaxTree}
    (hc : c ∈ n.children) : c.OperatorsClear v comments :=
  fun m hm => h m (nodes_subset_of_mem_children hc hm)

/-- A node keeps its operator, unless that is a comment. -/
theorem operator?_withoutComments
    (h : ∀ c, n.operator? = some c → v.isComment c.kind = false) :
    (n.withoutComments v).operator? = n.operator?.map (withoutComments v) := by
  have hfield : (fun c : SyntaxTree => c.field == some "operator") ∘ withoutComments v =
      fun c => c.field == some "operator" := by
    funext c
    simp
  rw [operator?, children_withoutComments, List.find?_map, hfield, otherChildren,
    List.find?_filter]
  congr 1
  cases ho : n.operator? with
  | none =>
    rw [operator?, List.find?_eq_none] at ho
    refine List.find?_eq_none.2 fun c hc => ?_
    simp [ho c hc]
  | some c =>
    -- whatever of the children before it is left is no operator either
    have hcomment := h c ho
    obtain ⟨hfield, before, after, hchildren, hbefore⟩ := List.find?_eq_some_iff_append.1 ho
    refine List.find?_eq_some_iff_append.2
      ⟨by simp [hcomment, hfield], before, after, hchildren, fun b hb => ?_⟩
    have := hbefore b hb
    simp_all

end SyntaxTree

namespace Cst

open SyntaxTree Text

/-! ### The texts of a structure tree -/

/-- The text that a node has if its tree is one of a given text. -/
def Node.textIn (text : List Char) (n : Node) : Option String :=
  if n.kind.capturesText then (bytesBetween? text n.span.start n.span.stop).map collapse else none

/-- **A structure tree with its texts read again**, from another text. -/
def Node.reread (text : List Char) (n : Node) : Node :=
  { n with
    text := n.textIn text
    children := n.children.attach.map fun c => c.1.reread text }
termination_by sizeOf n
decreasing_by exact Node.sizeOf_lt_of_mem_children c.2

theorem Node.reread_eq (text : List Char) (n : Node) :
    n.reread text =
      { n with text := n.textIn text, children := n.children.map (Node.reread text) } := by
  rw [Node.reread, List.attach_map_val]

/-- **Reading again changes nothing** just if it gives every node the text that it has. -/
theorem Node.reread_eq_self_iff {text : List Char} {n : Node} :
    n.reread text = n ↔ ∀ m ∈ n.nodes, m.textIn text = m.text := by
  have hchildren (c : Node) (hc : c ∈ n.children) :
      c.reread text = c ↔ ∀ m ∈ c.nodes, m.textIn text = m.text := reread_eq_self_iff
  constructor
  · intro h m hm
    rw [reread_eq] at h
    rw [nodes_eq] at hm
    rcases List.mem_cons.1 hm with rfl | hm
    · exact congrArg Node.text h
    · obtain ⟨c, hc, hm⟩ := mem_nodesBelow.1 hm
      have hsame : n.children.map (reread text) = n.children.map id := by
        rw [List.map_id]
        exact congrArg Node.children h
      exact (hchildren c hc).1 (List.map_inj_left.1 hsame c hc) m hm
  · intro h
    have hsame : n.children.map (reread text) = n.children := by
      refine (List.map_congr_left fun c hc => ?_).trans n.children.map_id
      exact (hchildren c hc).2 fun m hm =>
        h m (nodesBelow_subset_nodes n (mem_nodesBelow.2 ⟨c, hc, hm⟩))
    rw [reread_eq, hsame, h n n.mem_nodes_self]
    cases n
    rfl
termination_by sizeOf n
decreasing_by exact sizeOf_lt_of_mem_children hc

theorem Node.textIn_blankBytes {comments : List Span} {text : List Char}
    (hends : EndBetween comments 0 text) {n : Node}
    (h : n.kind.capturesText → n.span.ClearOf comments) :
    n.textIn (blankBytes comments 0 text) = n.textIn text := by
  unfold Node.textIn
  split
  · next hk => rw [bytesBetween?_blankBytes hends (h hk)]
  · rfl

/-- **Whether comments keep clear of the names of a tree**, that is of all nodes that have a
text. -/
def Node.NamesClear (comments : List Span) (n : Node) : Prop :=
  ∀ m ∈ n.nodes, m.kind.capturesText → m.span.ClearOf comments

instance (comments : List Span) (n : Node) : Decidable (n.NamesClear comments) :=
  inferInstanceAs (Decidable (∀ m ∈ n.nodes, m.kind.capturesText → m.span.ClearOf comments))

section Image

variable {v : Vocabulary} {text : List Char} {comments : List Span}

theorem textIn_of_mem_nodes_image {role : Option Role} {n : SyntaxTree} {m : Node}
    (h : m ∈ (image v text role n).nodes) : m.textIn text = m.text := by
  have himage (role : Option Role) (n : SyntaxTree) :
      (image v text role n).textIn text = (image v text role n).text := by
    rw [image_eq]
    rfl
  rw [Node.nodes_eq] at h
  rcases List.mem_cons.1 h with rfl | h
  · exact himage role n
  · obtain ⟨s, -, -, -, rfl⟩ := exists_site_of_mem_nodesBelow_image v text h
    exact himage _ _

/-! ### Without comments -/

theorem classify_eq (n : SyntaxTree) :
    classify v text n =
      if n.kind = v.binary then
        match n.operator?.bind (textOf? text) with
        | some op => if v.isLogical op then .logicalExpression else .other
        | none => .other
      else v.kindOf n.kind := rfl

/-- The kind of a node does not depend on comments. -/
theorem classify_withoutComments (hends : EndBetween comments 0 text) {n : SyntaxTree}
    (h : n.OperatorClear v comments) :
    classify v (blankBytes comments 0 text) (n.withoutComments v) = classify v text n := by
  rw [classify_eq, classify_eq, kind_withoutComments]
  split
  · next hk =>
    have hoperator : (n.withoutComments v).operator?.bind (textOf? (blankBytes comments 0 text)) =
        n.operator?.bind (textOf? text) := by
      rw [operator?_withoutComments fun c hc => (h hk c hc).1]
      cases ho : n.operator? with
      | none => rfl
      | some c =>
        have hread : textOf? (blankBytes comments 0 text) c = textOf? text c :=
          bytesBetween?_blankBytes hends (h hk c ho).2
        rw [Option.map_some, Option.bind_some, Option.bind_some, ← hread]
        simp only [textOf?, start_withoutComments, stop_withoutComments]
    rw [hoperator]
  · rfl

theorem spanOf_withoutComments (n : SyntaxTree) : spanOf (n.withoutComments v) = spanOf n := by
  simp [spanOf]

theorem fieldRole?_withoutComments (n : SyntaxTree) :
    fieldRole? v (n.withoutComments v) = fieldRole? v n := by
  simp [fieldRole?]

/-- A node keeps the same children, without the comments in them. -/
theorem keptChildren_withoutComments {text' : List Char} {n : SyntaxTree}
    (h : classify v text' (n.withoutComments v) = classify v text n) :
    keptChildren v text' (n.withoutComments v) =
      (keptChildren v text n).map (withoutComments v) := by
  unfold keptChildren
  rw [h]
  split
  · rfl
  · rw [children_withoutComments, List.filter_map, otherChildren, List.filter_filter]
    refine congrArg _ (List.filter_congr fun c _ => ?_)
    cases hc : v.isComment c.kind <;> simp [hc]

/-- **What becomes of a tree without its comments**: the same structure tree, but for the texts of
names, which are those of the blanked text. -/
theorem image_withoutComments (hends : EndBetween comments 0 text) (role : Option Role)
    {n : SyntaxTree} (h : n.OperatorsClear v comments) :
    image v (blankBytes comments 0 text) role (n.withoutComments v) =
      (image v text role n).reread (blankBytes comments 0 text) := by
  have hkind := classify_withoutComments hends (h n List.mem_cons_self)
  -- a child that is kept is no comment, so it is still there, without the comments in it
  have hchildren : images v (blankBytes comments 0 text) ((keptChildren v text n).map
      (withoutComments v)) =
      (images v text (keptChildren v text n)).map (Node.reread (blankBytes comments 0 text)) := by
    rw [images, images, List.map_map, List.map_map]
    refine List.map_congr_left fun c hc => ?_
    have hchild := mem_children_of_mem_keptChildren v text hc
    simp only [Function.comp_apply, fieldRole?_withoutComments]
    exact image_withoutComments hends (fieldRole? v c) (h.of_mem_children hchild)
  rw [image_eq, image_eq, keptChildren_withoutComments hkind, hchildren, Node.reread_eq]
  simp only [openNode, Node.textIn, hkind, spanOf_withoutComments]
  simp [textOf?, spanOf]
termination_by sizeOf n
decreasing_by exact sizeOf_lt_of_mem_children hchild

end Image

end Cst

end CodeMetrics
