import CodeMetrics.SyntaxTree
import CodeMetrics.Vocabulary
import CodeMetrics.Text.Whitespace
import CodeMetrics.Total

/-!
# Structure trees from syntax trees

A syntax tree becomes a structure tree by keeping its named nodes. Comments are left out and their
spans collected; name-like nodes keep their text instead of their parts; directives keep nothing.

The conversion works on a stack of nodes under way, so that its depth does not depend on that of
the tree: `Conversion.step` opens the next pending child of the topmost node, or closes the node
and gives it to the one below.
-/

namespace CodeMetrics.Cst

/-! ### Text and spans -/

/-- The text after a number of bytes, if that is between characters. -/
def dropBytes : Nat → List Char → Option (List Char)
  | 0, cs => some cs
  | _ + 1, [] => none
  | n + 1, c :: cs => if c.utf8Size ≤ n + 1 then dropBytes (n + 1 - c.utf8Size) cs else none
termination_by _ cs => cs.length

/-- The first bytes of a text, if they end between characters. -/
def takeBytes : Nat → List Char → Option (List Char)
  | 0, _ => some []
  | _ + 1, [] => none
  | n + 1, c :: cs =>
    if c.utf8Size ≤ n + 1 then (takeBytes (n + 1 - c.utf8Size) cs).map (c :: ·) else none
termination_by _ cs => cs.length

/-- The text between two byte offsets, if they are between characters. -/
def bytesBetween? (text : List Char) (start stop : Nat) : Option String :=
  if start ≤ stop then ((dropBytes start text).bind (takeBytes (stop - start))).map String.ofList
  else none

/-- The span of a node. A node that takes in the line break after it ends on the line of the line
break. -/
def spanOf (n : SyntaxTree) : Span :=
  let endRow := if n.stop.column = 0 && n.stop.row > n.start.row then n.stop.row - 1 else n.stop.row
  { start := n.start.byte, stop := n.stop.byte, startLine := n.start.row + 1, endLine := endRow + 1 }

/-- The source text of a node. -/
def textOf? (text : List Char) (n : SyntaxTree) : Option String :=
  bytesBetween? text n.start.byte n.stop.byte

/-! ### Nodes -/

/-- The category of a node; a binary expression is logical when its operator is. -/
def classify (v : Vocabulary) (text : List Char) (n : SyntaxTree) : Kind :=
  if n.kind = v.binary then
    let operator := (n.children.find? fun c => c.field == some "operator").bind (textOf? text)
    match operator with
    | some op => if v.isLogical op then .logicalExpression else .other
    | none => .other
  else v.kindOf n.kind

/-- The spans of the comments among pending nodes and below them, except below comments. -/
def harvest (v : Vocabulary) (pending : List SyntaxTree) : List Span :=
  match pending with
  | [] => []
  | n :: rest =>
    if v.isComment n.kind then spanOf n :: harvest v rest
    else harvest v (n.children ++ rest)
termination_by SyntaxTree.sizeAll pending
decreasing_by
  · have := SyntaxTree.size_pos n; simp; omega
  · have := SyntaxTree.size_eq n; simp; omega

/-- Whether the parts of a node of a category are kept. -/
def Kind.keepsChildren (k : Kind) : Bool := !k.capturesText && k != .directive

/-- What becomes of a child: it is kept, or gives up its comments. -/
def keeps (v : Vocabulary) (parent : Kind) (child : SyntaxTree) : Bool :=
  !v.isComment child.kind && parent.keepsChildren && child.named

/-- A node under way: its children so far, last first, and those still to be converted. -/
structure OpenNode where
  node : Node
  pending : List SyntaxTree

/-- Begins a node. -/
def openNode (v : Vocabulary) (text : List Char) (n : SyntaxTree) (role : Option Role) :
    OpenNode :=
  let kind := classify v text n
  { node :=
      { kind
        span := spanOf n
        role
        text := if kind.capturesText then (textOf? text n).map Text.collapse else none
        children := [] }
    pending := n.children.filter (keeps v kind) }

/-- The spans of the comments that a node gives up when it is begun. -/
def openComments (v : Vocabulary) (text : List Char) (n : SyntaxTree) : List Span :=
  harvest v (n.children.filter fun c => !keeps v (classify v text n) c)

/-- The role of a node. -/
def roleOf? (v : Vocabulary) (n : SyntaxTree) : Option Role := n.field.bind v.roleOf?

/-- The number of nodes still to be begun on a stack of nodes under way. -/
def pendingSize (stack : List OpenNode) : Nat := total (fun o => SyntaxTree.sizeAll o.pending) stack

/-- A node with its children in order. -/
def closeNode (n : Node) : Node := { n with children := n.children.reverse }

theorem sizeAll_filter_le (p : SyntaxTree → Bool) (ns : List SyntaxTree) :
    SyntaxTree.sizeAll (ns.filter p) ≤ SyntaxTree.sizeAll ns := by
  induction ns with
  | nil => simp
  | cons n ns ih =>
    by_cases h : p n <;> simp [h] <;> omega

/-- Converts until the bottom node of the stack is closed. -/
def convertLoop (v : Vocabulary) (text : List Char) (top : OpenNode) (below : List OpenNode)
    (comments : List Span) : Node × List Span :=
  match _hp : top.pending, below with
  | child :: rest, below =>
    convertLoop v text (openNode v text child (roleOf? v child)) ({ top with pending := rest } :: below)
      (comments ++ openComments v text child)
  | [], parent :: below =>
    convertLoop v text
      { parent with node := { parent.node with
          children := closeNode top.node :: parent.node.children } }
      below comments
  | [], [] => (closeNode top.node, comments)
termination_by (pendingSize (top :: below), below.length)
decreasing_by
  · apply Prod.Lex.left
    have h1 := SyntaxTree.size_eq child
    have h2 := sizeAll_filter_le (keeps v (classify v text child)) child.children
    simp only [wfParam, pendingSize, openNode, total_cons, _hp,
      SyntaxTree.sizeAll_cons]
    omega
  · simp only [pendingSize, total_cons, _hp, SyntaxTree.sizeAll_nil, Nat.zero_add]
    apply Prod.Lex.right
    simp [wfParam]

/-- **The structure tree of a syntax tree, with the spans of its comments.** -/
def ofSyntax (v : Vocabulary) (text : List Char) (root : SyntaxTree) : Node × List Span :=
  convertLoop v text (openNode v text root none) [] (openComments v text root)

end CodeMetrics.Cst
