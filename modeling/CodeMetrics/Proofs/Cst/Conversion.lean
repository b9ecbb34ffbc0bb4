import CodeMetrics.Proofs.Cst.Nodes
import CodeMetrics.Proofs.SyntaxTree.Comments
import Mathlib.Data.List.Basic

/-!
# Conversion is exact

What a syntax tree becomes is said by recursion in `Cst.image`: a node keeps the images of its named
children that are no comments, and names, primitive types and directives keep none. The conversion
works on a stack of nodes under way instead. What comes of the stack in the end, `Cst.closeAll`, is
the same before and after every step, as are the comments still to be collected
(`Cst.convertLoop_eq`).

Comments come from two sides, from the children that a node drops and from those that it keeps.
Every child is on one side, so each comment is collected once (`Cst.openComments_perm`).
-/

namespace CodeMetrics.Cst

open SyntaxTree

theorem Kind.keepsChildren_eq (k : Kind) :
    k.keepsChildren = decide (k ∉ [.identifier, .primitiveType, .directive]) := by
  cases k <;> rfl

section Image

variable (v : Vocabulary) (text : List Char)

/-! ### Images -/

/-- The children that a node keeps: those that are named and no comments, unless the node is a name,
a primitive type or a directive. -/
def keptChildren (n : SyntaxTree) : List SyntaxTree :=
  if classify v text n ∈ [.identifier, .primitiveType, .directive] then []
  else n.children.filter fun c => c.named && !v.isComment c.kind

theorem keptChildren_eq (n : SyntaxTree) :
    keptChildren v text n = n.children.filter (keeps v (classify v text n)) := by
  unfold keptChildren keeps
  rw [Kind.keepsChildren_eq]
  split
  · next hk => simp [hk]
  · next hk => simp [hk, Bool.and_comm]

theorem mem_children_of_mem_keptChildren {n c : SyntaxTree} (h : c ∈ keptChildren v text n) :
    c ∈ n.children := by
  rw [keptChildren_eq] at h
  exact (List.mem_filter.1 h).1

/-- The role of a node: what the table of fields has for its field, none without a field or where the
field is not listed. -/
def fieldRole? (n : SyntaxTree) : Option Role := n.field.bind fun field => v.fields.lookup field

theorem roleOf?_eq (n : SyntaxTree) : roleOf? v n = fieldRole? v n := rfl

/-- **The image of a syntax tree**: the structure tree of its named nodes without the comments. -/
def image (role : Option Role) (n : SyntaxTree) : Node :=
  { kind := classify v text n
    span := spanOf n
    role
    text := if (classify v text n).capturesText then (textOf? text n).map Text.collapse else none
    children := (keptChildren v text n).attach.map fun c => image (fieldRole? v c.1) c.1 }
termination_by sizeOf n
decreasing_by exact sizeOf_lt_of_mem_children (mem_children_of_mem_keptChildren v text c.2)

/-- The images of nodes, each in the role of its field. -/
def images (ns : List SyntaxTree) : List Node := ns.map fun c => image v text (fieldRole? v c) c

theorem image_eq (role : Option Role) (n : SyntaxTree) :
    image v text role n =
      { (openNode v text n role).node with children := images v text (keptChildren v text n) } := by
  have hchildren :
      ((keptChildren v text n).attach.map fun c => image v text (fieldRole? v c.1) c.1) =
        images v text (keptChildren v text n) := by
    simp [images]
  rw [image, hchildren]
  rfl

/-- Every node below an image is the image of a node below, which is named and no comment. -/
theorem exists_site_of_mem_nodesBelow_image {role : Option Role} {n : SyntaxTree} {m : Node}
    (h : m ∈ (image v text role n).nodesBelow) : ∃ s ∈ n.sites, s.node.named ∧
      v.isComment s.node.kind = false ∧ m = image v text (fieldRole? v s.node) s.node := by
  obtain ⟨d, hd, hm⟩ := Node.mem_nodesBelow.1 h
  rw [image_eq] at hd
  obtain ⟨c, hc, rfl⟩ := List.mem_map.1 hd
  have hchild := mem_children_of_mem_keptChildren v text hc
  rw [Node.nodes_eq] at hm
  rcases List.mem_cons.1 hm with rfl | hm
  · have hkept : c.named ∧ v.isComment c.kind = false := by
      rw [keptChildren_eq] at hc
      simp_all [keeps]
    exact ⟨⟨[], c⟩, mem_sites_of_mem_children hchild, hkept.1, hkept.2, rfl⟩
  · obtain ⟨s, hs, hnamed, hcomment, heq⟩ := exists_site_of_mem_nodesBelow_image hm
    exact ⟨s.under c, under_mem_sites hchild hs, hnamed, hcomment, heq⟩
termination_by sizeOf n
decreasing_by exact sizeOf_lt_of_mem_children hchild

theorem children_of_mem_nodes_image {role : Option Role} {n : SyntaxTree} {m : Node}
    (h : m ∈ (image v text role n).nodes)
    (hk : m.kind ∈ [.identifier, .primitiveType, .directive]) : m.children = [] := by
  have himage : ∀ role' n', m = image v text role' n' → m.children = [] := by
    rintro role' n' rfl
    rw [image_eq] at hk ⊢
    have hkept : keptChildren v text n' = [] := if_pos hk
    rw [hkept]
    rfl
  rw [Node.nodes_eq] at h
  rcases List.mem_cons.1 h with h | h
  · exact himage role n h
  · obtain ⟨s, -, -, -, heq⟩ := exists_site_of_mem_nodesBelow_image v text h
    exact himage _ _ heq

end Image

/-! ### The stack -/

section Stack

variable (v : Vocabulary) (text : List Char)

/-- What becomes of a node under way: it gets the images of its pending children. -/
def OpenNode.finished (o : OpenNode) : Node :=
  { o.node with children := o.node.children.reverse ++ images v text o.pending }

/-- A node under way with one more child. -/
def OpenNode.add (o : OpenNode) (n : Node) : OpenNode :=
  { o with node := { o.node with children := n :: o.node.children } }

/-- **What becomes of a stack** when its topmost node is finished: each node is given to the one
below, which is finished in turn. -/
def closeAll : Node → List OpenNode → Node
  | n, [] => n
  | n, o :: below => closeAll ((o.add n).finished v text) below

/-- The comments that pending nodes hold. -/
def pendingComments (o : OpenNode) : List Span := o.pending.flatMap (commentSpans v)

theorem finished_openNode (n : SyntaxTree) (role : Option Role) :
    (openNode v text n role).finished v text = image v text role n := by
  rw [image_eq, keptChildren_eq]
  rfl

theorem finished_of_pending_eq_nil {o : OpenNode} (h : o.pending = []) :
    o.finished v text = closeNode o.node := by
  simp [OpenNode.finished, closeNode, images, h]

/-- Opening the next pending child changes nothing in what becomes of a node. -/
theorem finished_of_pending_eq_cons {o : OpenNode} {c : SyntaxTree} {rest : List SyntaxTree}
    (h : o.pending = c :: rest) :
    o.finished v text =
      ({ o with pending := rest }.add (image v text (fieldRole? v c) c)).finished v text := by
  simp [OpenNode.finished, OpenNode.add, images, h]

/-- **A node gives up each comment below it once**: when it is begun, or from a child that it
keeps. -/
theorem openComments_perm (n : SyntaxTree) (role : Option Role) :
    (openComments v text n ++ pendingComments v (openNode v text n role)).Perm
      (n.commentSpans v) := by
  have hkept : pendingComments v (openNode v text n role) =
      (n.children.filter (keeps v (classify v text n))).flatMap (commentsOf v) := by
    refine List.flatMap_congr fun c hc => ?_
    have hcomment : v.isComment c.kind = false := by
      have := (List.mem_filter.1 hc).2
      simp_all [keeps]
    rw [commentsOf, if_neg (by simp [hcomment])]
  rw [openComments, harvest_eq, hkept, ← List.flatMap_append, commentSpans_eq]
  exact (List.perm_append_comm.trans (List.filter_append_perm _ n.children)).flatMap_right _

/-- **Converting until the stack is empty** gives what becomes of the stack, and the comments of all
pending nodes. -/
theorem convertLoop_eq (top : OpenNode) (below : List OpenNode) (comments : List Span) :
    (convertLoop v text top below comments).1 = closeAll v text (top.finished v text) below ∧
      (convertLoop v text top below comments).2.Perm
        (comments ++ (top :: below).flatMap (pendingComments v)) := by
  fun_induction convertLoop v text top below comments with
  | case1 top comments child rest below hp ih =>
    simp only [wfParam] at ih
    obtain ⟨hnode, hcomments⟩ := ih
    constructor
    · rw [hnode, finished_openNode, finished_of_pending_eq_cons v text hp, roleOf?_eq]
      rfl
    · have htop : pendingComments v top =
          child.commentSpans v ++ pendingComments v { top with pending := rest } := by
        simp [pendingComments, hp]
      have hchild := openComments_perm v text child (roleOf? v child)
      refine hcomments.trans ?_
      rw [List.flatMap_cons, List.flatMap_cons, List.flatMap_cons, htop, List.append_assoc,
        List.append_assoc, ← List.append_assoc (openComments v text child)]
      exact (hchild.append_right _).append_left comments
  | case2 top comments parent below hp ih =>
    simp only [wfParam] at ih
    obtain ⟨hnode, hcomments⟩ := ih
    constructor
    · rw [hnode, finished_of_pending_eq_nil v text hp]
      rfl
    · have htop : pendingComments v top = [] := by simp [pendingComments, hp]
      rw [List.flatMap_cons, htop]
      exact hcomments
  | case3 top comments hp =>
    have htop : pendingComments v top = [] := by simp [pendingComments, hp]
    exact ⟨(finished_of_pending_eq_nil v text hp).symm, by simp [htop]⟩

/-- What a syntax tree is converted to, and the comments that are collected. -/
theorem ofSyntax_eq (root : SyntaxTree) :
    (ofSyntax v text root).1 = image v text none root ∧
      (ofSyntax v text root).2.Perm (root.commentSpans v) := by
  obtain ⟨hnode, hcomments⟩ :=
    convertLoop_eq v text (openNode v text root none) [] (openComments v text root)
  refine ⟨?_, ?_⟩
  · rw [ofSyntax, hnode, finished_openNode, closeAll]
  · rw [List.flatMap_singleton] at hcomments
    exact hcomments.trans (openComments_perm v text root none)

end Stack

/-- **Conversion is exact.** The structure tree of a syntax tree is its image: every node has as
children the images of its named children that are no comments, in their order and in the roles of
their fields; names, primitive types and directives have none, and nothing below the root is the
image of a comment. The comments that are collected are those below the root, each once, whatever
they stand in; only a comment inside of a comment is not collected. -/
theorem ofSyntax_exact (v : Vocabulary) (text : List Char) (root : SyntaxTree) :
    (ofSyntax v text root).1 = image v text none root ∧
      (∀ n ∈ (ofSyntax v text root).1.nodes,
        n.kind ∈ [.identifier, .primitiveType, .directive] → n.children = []) ∧
      (∀ n ∈ (ofSyntax v text root).1.nodesBelow, ∃ s ∈ root.sites, s.node.named ∧
        v.isComment s.node.kind = false ∧ n = image v text (fieldRole? v s.node) s.node) ∧
      (ofSyntax v text root).2.Perm (root.commentSpans v) := by
  obtain ⟨hnode, hcomments⟩ := ofSyntax_eq v text root
  rw [hnode]
  exact ⟨rfl, fun n => children_of_mem_nodes_image v text,
    fun n => exists_site_of_mem_nodesBelow_image v text, hcomments⟩

/-- A definition, a directive and a comment. There are comments in a name, in an expression, in an
anonymous node and in the directive as well. -/
def scatteredText : List Char :=
  "int f  /*1*/()\x7ba&&/*2*/b/*3*/;\x7d\n#define A/*4*/\n/*5*/".toList

/-- The syntax tree of `scatteredText`. -/
def scatteredComments : SyntaxTree :=
  let declarator := onFirstLine "function_declarator" true (some "declarator") 4 14 [
    onFirstLine "template_function" true (some "declarator") 4 12 [
      onFirstLine "identifier" true (some "name") 4 5 [], commentAt 7 12],
    onFirstLine "parameter_list" true (some "parameters") 12 14 [
      onFirstLine "(" false none 12 13 [], onFirstLine ")" false none 13 14 []]]
  let body := onFirstLine "compound_statement" true (some "body") 14 31 [
    onFirstLine "\x7b" false none 14 15 [],
    onFirstLine "binary_expression" true none 15 24 [
      onFirstLine "identifier" true (some "left") 15 16 [],
      onFirstLine "&&" false (some "operator") 16 18 [],
      commentAt 18 23,
      onFirstLine "identifier" true (some "right") 23 24 []],
    onFirstLine ";" false none 24 30 [commentAt 24 29],
    onFirstLine "\x7d" false none 30 31 []]
  { onFirstLine "translation_unit" true none 0 52 [
      onFirstLine "function_definition" true none 0 31 [
        onFirstLine "primitive_type" true (some "type") 0 3 [], declarator, body],
      { onFirstLine "preproc_def" true none 32 47 [
          { commentAt 41 46 with start := ⟨41, 1, 9⟩, stop := ⟨46, 1, 14⟩ }] with
        start := ⟨32, 1, 0⟩, stop := ⟨47, 2, 0⟩ },
      { commentAt 47 52 with start := ⟨47, 2, 0⟩, stop := ⟨52, 2, 5⟩ }] with
    stop := ⟨52, 2, 5⟩ }

/-- The structure tree of `scatteredText`. -/
def scatteredNodes : Node :=
  ⟨.translationUnit, ⟨0, 52, 1, 3⟩, none, none, [
    ⟨.functionDefinition, ⟨0, 31, 1, 1⟩, none, none, [
      ⟨.primitiveType, ⟨0, 3, 1, 1⟩, some .type, some "int", []⟩,
      ⟨.functionDeclarator, ⟨4, 14, 1, 1⟩, some .declarator, none, [
        ⟨.identifier, ⟨4, 12, 1, 1⟩, some .declarator, some "f /*1*/", []⟩,
        ⟨.parameterList, ⟨12, 14, 1, 1⟩, some .parameters, none, []⟩]⟩,
      ⟨.compound, ⟨14, 31, 1, 1⟩, some .body, none, [
        ⟨.logicalExpression, ⟨15, 24, 1, 1⟩, none, none, [
          ⟨.identifier, ⟨15, 16, 1, 1⟩, none, some "a", []⟩,
          ⟨.identifier, ⟨23, 24, 1, 1⟩, none, some "b", []⟩]⟩]⟩]⟩,
    ⟨.directive, ⟨32, 47, 2, 2⟩, none, none, []⟩]⟩

/-- What becomes of `scatteredText`: children have the roles of their fields, an operand has none, a
name is its text with blanks collapsed, and all five comments are collected. -/
theorem ofSyntax_exact_scattered :
    (ofSyntax .cpp scatteredText scatteredComments).1 = scatteredNodes ∧
      (ofSyntax .cpp scatteredText scatteredComments).2.Perm
        [⟨7, 12, 1, 1⟩, ⟨18, 23, 1, 1⟩, ⟨24, 29, 1, 1⟩, ⟨41, 46, 2, 2⟩, ⟨47, 52, 3, 3⟩] := by
  obtain ⟨hnode, -, -, hcomments⟩ := ofSyntax_exact .cpp scatteredText scatteredComments
  have himage : image .cpp scatteredText none scatteredComments = scatteredNodes := by
    with_unfolding_all rfl
  have hspans : scatteredComments.commentSpans .cpp =
      [⟨7, 12, 1, 1⟩, ⟨18, 23, 1, 1⟩, ⟨24, 29, 1, 1⟩, ⟨41, 46, 2, 2⟩, ⟨47, 52, 3, 3⟩] := by
    decide +kernel
  rw [hspans] at hcomments
  exact ⟨hnode.trans himage, hcomments⟩

end CodeMetrics.Cst
