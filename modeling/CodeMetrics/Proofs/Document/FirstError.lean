import CodeMetrics.Document
import CodeMetrics.Proofs.SyntaxTree.Comments

/-!
# The first error of a text

A text is refused if its syntax tree is marked as having an error, and the error that is told is the
first node found which stands for one. The search for it keeps pending nodes and does not look below
a node that has no mark. What it should find does not depend on marks: the first such node of the
whole tree in document order (`SyntaxTree.FirstFault`).

The marks come from the parser, and two things are asked of them. That no error is passed over needs
a mark on every node above an error (`SyntaxTree.FaultsMarked`). That an error is found at all needs
an error below every mark; together this is `SyntaxTree.MarksFaults`. Without the second one there
is an error without a place, and `Document.ofTree_eq_unlocated_iff` says when: the root is marked,
and no node stands for an error, as when a token is missing that trees do not show.
-/

namespace CodeMetrics

namespace SyntaxTree

/-- **The nodes of a tree are its root and then those of its children**, one child after the
other. -/
theorem nodes_eq (n : SyntaxTree) : n.nodes = n :: n.children.flatMap nodes := by
  have hchild (c : SyntaxTree) :
      (⟨[], c⟩ :: c.sites.map (Site.under c)).map Site.node = c.nodes := by
    simp [nodes, Site.under, Function.comp_def]
  rw [nodes, sites_eq, List.map_flatMap]
  simp only [hchild]

theorem mem_nodes_self (n : SyntaxTree) : n ∈ n.nodes := List.mem_cons_self

/-! ### Nodes that stand for errors -/

/-- Whether a node stands for an error: for text that could not be parsed, or for a token that had
to be invented. -/
def isFault (n : SyntaxTree) : Bool := n.isError || n.isMissing

/-- Whether some node of a tree stands for an error. -/
def HasFault (n : SyntaxTree) : Prop := ∃ m ∈ n.nodes, m.isFault

/-- **The first node of a tree that stands for an error**, in document order. -/
def FirstFault (root n : SyntaxTree) : Prop :=
  n.isFault ∧ ∃ before after, root.nodes = before ++ n :: after ∧ ∀ m ∈ before, ¬m.isFault

theorem FirstFault.hasFault {root n : SyntaxTree} (h : root.FirstFault n) : root.HasFault := by
  obtain ⟨hfault, before, after, hnodes, -⟩ := h
  refine ⟨n, ?_, hfault⟩
  rw [hnodes]
  exact List.mem_append_right before List.mem_cons_self

/-- Whether every node with an error in its tree is marked. -/
def FaultsMarked (root : SyntaxTree) : Prop := ∀ n ∈ root.nodes, n.HasFault → n.hasError

/-- **Whether the marked nodes are just those with an error in their tree.** -/
def MarksFaults (root : SyntaxTree) : Prop := ∀ n ∈ root.nodes, n.hasError ↔ n.HasFault

theorem MarksFaults.faultsMarked {root : SyntaxTree} (h : root.MarksFaults) : root.FaultsMarked :=
  fun n hn => (h n hn).2

theorem FaultsMarked.of_mem_children {n c : SyntaxTree} (h : n.FaultsMarked)
    (hc : c ∈ n.children) : c.FaultsMarked :=
  fun m hm => h m (nodes_subset_of_mem_children hc hm)

/-! ### The search -/

/-- **The search among pending nodes** finds the first error in their trees. -/
theorem firstErrorAmong_eq_find? {pending : List SyntaxTree}
    (h : ∀ n ∈ pending, n.FaultsMarked) :
    firstErrorAmong pending = (pending.flatMap nodes).find? isFault := by
  fun_induction firstErrorAmong pending with
  | case1 => rfl
  | case2 n rest hn =>
    have hfault : n.isFault := hn
    rw [List.flatMap_cons, nodes_eq, List.cons_append, List.find?_cons_of_pos hfault]
  | case3 n rest hn ih =>
    have hfault : ¬n.isFault := hn
    rw [List.forall_mem_cons] at h
    have hskip : ((n :: rest).flatMap nodes).find? isFault =
        ((n.children ++ rest).flatMap nodes).find? isFault := by
      rw [List.flatMap_cons, nodes_eq, List.cons_append, List.find?_cons_of_neg hfault,
        List.flatMap_append]
    rw [hskip]
    by_cases hmark : n.hasError
    · rw [dif_pos hmark] at ih
      rw [if_pos hmark]
      refine ih fun c hc => ?_
      rcases List.mem_append.1 hc with hc | hc
      · exact h.1.of_mem_children hc
      · exact h.2 c hc
    · -- there is no error below a node without a mark, so nothing is passed over
      have hnone : (n.children.flatMap nodes).find? isFault = none := by
        rw [List.find?_eq_none]
        intro m hm hbelow
        refine hmark (h.1 n n.mem_nodes_self ⟨m, ?_, hbelow⟩)
        rw [nodes_eq]
        exact List.mem_cons_of_mem n hm
      rw [dif_neg hmark] at ih
      rw [if_neg hmark, ih h.2, List.flatMap_append, List.find?_append, hnone, Option.none_or]

section

variable {root : SyntaxTree} (h : root.FaultsMarked)
include h

theorem firstError?_eq_find? : root.firstError? = root.nodes.find? isFault := by
  rw [firstError?, firstErrorAmong_eq_find? (List.forall_mem_singleton.2 h),
    List.flatMap_singleton]

/-- **What is found is the first error.** -/
theorem firstError?_eq_some_iff {n : SyntaxTree} :
    root.firstError? = some n ↔ root.FirstFault n := by
  rw [firstError?_eq_find? h, List.find?_eq_some_iff_append, FirstFault]
  simp

/-- Nothing is found only if there is no error. -/
theorem firstError?_eq_none_iff : root.firstError? = none ↔ ¬root.HasFault := by
  rw [firstError?_eq_find? h, List.find?_eq_none, HasFault]
  simp

theorem exists_firstFault (hfault : root.HasFault) : ∃ n, root.FirstFault n := by
  cases hfirst : root.firstError? with
  | none => exact absurd hfault ((firstError?_eq_none_iff h).1 hfirst)
  | some n => exact ⟨n, (firstError?_eq_some_iff h).1 hfirst⟩

end

/-! ### Trees with marks -/

/-- A token, which is marked if it is missing. -/
def token (kind : String) (isMissing : Bool) (start stop : Position) : SyntaxTree where
  kind := kind
  named := false
  field := none
  isError := false
  isMissing := isMissing
  hasError := isMissing
  start := start
  stop := stop
  children := []

/-- A node around others, with its mark. -/
def nodeAround (kind : String) (hasError : Bool) (start stop : Position)
    (children : List SyntaxTree) : SyntaxTree where
  kind := kind
  named := true
  field := none
  isError := false
  isMissing := false
  hasError := hasError
  start := start
  stop := stop
  children := children

end SyntaxTree

namespace Document

open SyntaxTree

variable {language : Language} {text : String} {root : SyntaxTree}

theorem ofTree_of_firstError? {n : SyntaxTree} (hmark : root.hasError)
    (h : root.firstError? = some n) :
    ofTree language text root = .error (errorAt text.toList n) := by
  rw [ofTree, if_pos hmark, h]

/-- **A text is refused only for a mark at the root**, and then for the first error in its tree, or
without a place. -/
theorem ofTree_eq_error_iff {e : ParseError} : ofTree language text root = .error e ↔
    root.hasError ∧ ((∃ n, root.firstError? = some n ∧ e = errorAt text.toList n) ∨
      root.firstError? = none ∧ e = errorAtStart .unlocated) := by
  unfold ofTree
  cases root.hasError <;> cases root.firstError? <;> simp [eq_comm]

theorem errorAt_ne_errorAtStart (cs : List Char) (n : SyntaxTree) :
    errorAt cs n ≠ errorAtStart .unlocated := by
  intro heq
  have hfault := congrArg ParseError.fault heq
  simp only [errorAt, errorAtStart] at hfault
  split at hfault <;> cases hfault

/-- **An error has no place** if the root is marked and no node stands for an error. -/
theorem ofTree_eq_unlocated_iff (h : root.FaultsMarked) :
    ofTree language text root = .error (errorAtStart .unlocated) ↔
      root.hasError ∧ ¬root.HasFault := by
  rw [ofTree_eq_error_iff, firstError?_eq_none_iff h]
  refine and_congr_right fun _ => ⟨?_, fun hnone => Or.inr ⟨hnone, rfl⟩⟩
  rintro (⟨n, -, heq⟩ | ⟨hnone, -⟩)
  · exact absurd heq.symm (errorAt_ne_errorAtStart _ n)
  · exact hnone

/-- The tree of a definition that misses the end of its line, a token that trees do not show. -/
def unendedDefinition : SyntaxTree :=
  nodeAround "translation_unit" true ⟨0, 0, 0⟩ ⟨9, 0, 9⟩ [
    nodeAround "preproc_def" true ⟨0, 0, 0⟩ ⟨9, 0, 9⟩ [
      token "#define" false ⟨0, 0, 0⟩ ⟨7, 0, 7⟩,
      { token "identifier" false ⟨8, 0, 8⟩ ⟨9, 0, 9⟩ with named := true, field := some "name" }]]

example : ofTree .c "#define A" unendedDefinition = .error (errorAtStart .unlocated) := by cbv

/-- **The error of a text is that of the first node that stands for one**, if the marks in its tree
are right. The search finds this node if there is one, and nothing only if there is none; a text is
refused just if there is one, for the byte at which it begins, with its row and its column counted
from one; and an error without a place is never told. -/
theorem ofTree_locates_first (h : root.MarksFaults) :
    (∀ n, root.firstError? = some n ↔ root.FirstFault n) ∧
      (root.firstError? = none ↔ ∀ n ∈ root.nodes, n.isError = false ∧ n.isMissing = false) ∧
      ∀ (language : Language) (text : String),
        (root.hasError → ∃ n, root.FirstFault n ∧ ofTree language text root = .error {
          offset := n.start.byte
          line := n.start.row + 1
          column := n.start.column + 1
          fault := if n.isMissing then .missing n.kind
            else .unexpected (snippet text.toList n) }) ∧
        (∀ e, ofTree language text root = .error e ↔
          ∃ n, root.FirstFault n ∧ e = errorAt text.toList n) ∧
        ofTree language text root ≠ .error (errorAtStart .unlocated) ∧
        (SyntaxTree.ofText? language text = some root →
          parse language text = ofTree language text root) := by
  have hmarked := h.faultsMarked
  have hroot : root.hasError ↔ root.HasFault := h root root.mem_nodes_self
  refine ⟨fun n => firstError?_eq_some_iff hmarked, ?_, fun language text => ⟨?_, ?_, ?_, ?_⟩⟩
  · rw [firstError?_eq_none_iff hmarked, HasFault]
    simp [isFault]
  · intro hmark
    obtain ⟨n, hn⟩ := exists_firstFault hmarked (hroot.1 hmark)
    exact ⟨n, hn, ofTree_of_firstError? hmark ((firstError?_eq_some_iff hmarked).2 hn)⟩
  · intro e
    rw [ofTree_eq_error_iff]
    constructor
    · rintro ⟨hmark, ⟨n, hn, rfl⟩ | ⟨hnone, -⟩⟩
      · exact ⟨n, (firstError?_eq_some_iff hmarked).1 hn, rfl⟩
      · exact absurd (hroot.1 hmark) ((firstError?_eq_none_iff hmarked).1 hnone)
    · rintro ⟨n, hn, rfl⟩
      exact ⟨hroot.2 hn.hasFault, Or.inl ⟨n, (firstError?_eq_some_iff hmarked).2 hn, rfl⟩⟩
  · rw [ne_eq, ofTree_eq_unlocated_iff hmarked]
    rintro ⟨hmark, hnot⟩
    exact hnot (hroot.1 hmark)
  · intro hparse
    rw [parse, hparse]

/-- The statement that jumps to a label, without the semicolon after it. -/
def openGoto (row start : Nat) : SyntaxTree :=
  nodeAround "goto_statement" true ⟨start, row, 0⟩ ⟨start + 6, row, 6⟩ [
    token "goto" false ⟨start, row, 0⟩ ⟨start + 4, row, 4⟩,
    { token "statement_identifier" false ⟨start + 5, row, 5⟩ ⟨start + 6, row, 6⟩ with
      named := true, field := some "label" },
    token ";" true ⟨start + 6, row, 6⟩ ⟨start + 6, row, 6⟩]

/-- The tree of three statements, of which the last two miss their semicolons. -/
def threeStatements : SyntaxTree :=
  nodeAround "translation_unit" true ⟨0, 0, 0⟩ ⟨20, 2, 6⟩ [
    nodeAround "break_statement" false ⟨0, 0, 0⟩ ⟨6, 0, 6⟩ [
      token "break" false ⟨0, 0, 0⟩ ⟨5, 0, 5⟩, token ";" false ⟨5, 0, 5⟩ ⟨6, 0, 6⟩],
    openGoto 1 7, openGoto 2 14]

/-- Of the two semicolons that are missing the one on the second line is told. -/
theorem ofTree_locates_first_missing :
    threeStatements.MarksFaults ∧ threeStatements.hasError ∧
      threeStatements.firstError? = some (token ";" true ⟨13, 1, 6⟩ ⟨13, 1, 6⟩) ∧
      threeStatements.FirstFault (token ";" true ⟨13, 1, 6⟩ ⟨13, 1, 6⟩) ∧
      ofTree .c "break;\ngoto a\ngoto b" threeStatements = .error ⟨13, 2, 7, .missing ";"⟩ := by
  have h : threeStatements.MarksFaults := by
    simp [threeStatements, openGoto, nodeAround, token, MarksFaults, HasFault, isFault,
      nodes_eq (SyntaxTree.mk ..)]
  have hfound : threeStatements.firstError? =
      some (token ";" true ⟨13, 1, 6⟩ ⟨13, 1, 6⟩) := by cbv
  obtain ⟨hsearch, -, htree⟩ := ofTree_locates_first h
  have hfirst := (hsearch _).1 hfound
  obtain ⟨-, herror, -⟩ := htree .c "break;\ngoto a\ngoto b"
  exact ⟨h, rfl, hfound, hfirst, (herror ⟨13, 2, 7, .missing ";"⟩).2 ⟨_, hfirst, rfl⟩⟩

end Document

end CodeMetrics
