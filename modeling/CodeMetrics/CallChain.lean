import CodeMetrics.Cst
import CodeMetrics.Total

/-!
# Call chains

A chain such as `obj.a().field.b().c()` is a maximal run of calls and field accesses linked through
their receivers; its length is the number of its calls. Arguments begin chains of their own.
-/

namespace CodeMetrics.CallChain

open Cst

/-- Whether a node is a link of a chain. -/
def isLink (n : Node) : Bool := n.kind == .call || n.kind == .fieldAccess

/-- The node a link is applied to. -/
def receiver? (n : Node) : Option Node :=
  if n.kind = .call then n.childWithRole? .callee else n.childWithRole? .operand

theorem mem_of_receiver? {n c : Node} (h : receiver? n = some c) : c ∈ n.children := by
  unfold receiver? at h
  split at h <;> exact Node.mem_of_childWithRole? h

/-- **The number of calls on the run of receivers** that begins with a node. -/
def callsAlong (n : Node) : Nat :=
  if isLink n then
    (if n.kind = .call then 1 else 0) +
      match _h : receiver? n with
      | some r => callsAlong r
      | none => 0
  else 0
termination_by sizeOf n
decreasing_by exact Node.sizeOf_lt_of_mem_children (mem_of_receiver? _h)

/-- A node to be looked at, and whether its parent is a link. -/
structure Pending where
  node : Node
  insideLink : Bool

/-- Nodes to be looked at that have the same parent. -/
def siblings (insideLink : Bool) (ns : List Node) : List Pending := ns.map fun c => ⟨c, insideLink⟩

/-- The number of nodes still to be looked at. -/
def pendingSize (pending : List Pending) : Nat := total (fun p => p.node.size) pending

theorem pendingSize_append (ps qs : List Pending) :
    pendingSize (ps ++ qs) = pendingSize ps + pendingSize qs := by
  simp [pendingSize]

theorem pendingSize_siblings (b : Bool) (ns : List Node) :
    pendingSize (siblings b ns) = Node.sizeAll ns := by
  induction ns with
  | nil => rfl
  | cons n ns ih => simpa [pendingSize, siblings] using ih

/-- The lengths of the chains that begin among the pending nodes or below them. -/
def chainsAmong (pending : List Pending) : List Nat :=
  match pending with
  | [] => []
  | p :: rest =>
    let link := isLink p.node
    let calls := if link && !p.insideLink then callsAlong p.node else 0
    let others := chainsAmong (siblings link p.node.children ++ rest)
    if calls > 0 then calls :: others else others
termination_by pendingSize pending
decreasing_by
  have := Node.size_eq p.node
  rw [pendingSize_append, pendingSize_siblings]
  simp [pendingSize]
  omega

/-- **The number of calls of each chain of a tree**, in source order. Runs without a call are left
out. -/
def callChains (root : Node) : List Nat := chainsAmong [⟨root, false⟩]

end CodeMetrics.CallChain
