/-!
# Syntax trees

The tree a parser gives for a text: nodes with the name of their kind, the field they fill in their
parent, and their place. Punctuation is part of the tree as nodes that are not `named`.

A node may stand for text that could not be parsed (`isError`), or for a token that had to be
invented (`isMissing`); `hasError` says that the parser met with trouble in the node or below.
-/

namespace CodeMetrics

/-- A place in a text: bytes before it, row and column, counted from zero. -/
structure Position where
  byte : Nat
  row : Nat
  column : Nat
  deriving DecidableEq, Inhabited

/-- A node of a syntax tree. -/
structure SyntaxTree where
  kind : String
  named : Bool
  field : Option String
  isError : Bool
  isMissing : Bool
  hasError : Bool
  start : Position
  stop : Position
  children : List SyntaxTree
  deriving Inhabited

namespace SyntaxTree

theorem sizeOf_children_lt (n : SyntaxTree) : sizeOf n.children < sizeOf n := by
  cases n
  simp only [mk.sizeOf_spec]
  omega

/-! ### Number of nodes -/

mutual

/-- The number of nodes of a tree. -/
def size : SyntaxTree → Nat
  | ⟨_, _, _, _, _, _, _, _, children⟩ => sizeAll children + 1

/-- The number of nodes of a list of trees. -/
def sizeAll : List SyntaxTree → Nat
  | [] => 0
  | n :: ns => n.size + sizeAll ns

end

theorem size_eq (n : SyntaxTree) : n.size = sizeAll n.children + 1 := by
  cases n; rfl

@[simp] theorem sizeAll_nil : sizeAll [] = 0 := rfl

@[simp] theorem sizeAll_cons (n : SyntaxTree) (ns : List SyntaxTree) :
    sizeAll (n :: ns) = n.size + sizeAll ns := rfl

@[simp] theorem sizeAll_append (ms ns : List SyntaxTree) :
    sizeAll (ms ++ ns) = sizeAll ms + sizeAll ns := by
  induction ms with
  | nil => simp
  | cons m ms ih => simp [ih, Nat.add_assoc]

theorem size_pos (n : SyntaxTree) : 0 < n.size := by
  rw [size_eq]; omega

/-! ### The first error -/

/-- The first node in document order among the pending ones that stands for an error, looking only
below nodes that have one. -/
def firstErrorAmong (pending : List SyntaxTree) : Option SyntaxTree :=
  match pending with
  | [] => none
  | n :: rest =>
    if n.isError || n.isMissing then some n
    else firstErrorAmong (if n.hasError then n.children ++ rest else rest)
termination_by sizeAll pending
decreasing_by
  have := size_eq n
  split <;> simp <;> omega

/-- **The first unparsed or invented node of a tree**, parents before children. -/
def firstError? (root : SyntaxTree) : Option SyntaxTree := firstErrorAmong [root]

end SyntaxTree

end CodeMetrics
