import CodeMetrics.CallChain
import CodeMetrics.Proofs.Cst.Sites
import CodeMetrics.Proofs.Total
import Mathlib.Data.List.Pairwise

/-!
# Call chains partition the calls

A chain begins at its head, a link that is no child of another link, and goes on from receiver to
receiver (`Cst.Site.run`). The heads are found by a traversal that knows of every node whether its
parent is a link; over pending nodes it lists them in document order
(`Cst.Site.chainsAmong_pending`).

Nothing makes the runs from the heads meet all links: a link that stands in another one without
being its receiver is neither a head nor on the run of one. If there is no such link, the runs
together are the links of the tree, each once (`CallChain.runs_perm`). The induction goes over the
tree and carries the run that comes down from the parent: below a link, what the heads below leave
out is that run.
-/

namespace CodeMetrics

open Cst

namespace CallChain

/-- A link adds itself to the calls along its receiver. -/
theorem callsAlong_of_isLink {n : Node} (h : isLink n) :
    callsAlong n = total callsAlong (receiver? n).toList + if n.kind = .call then 1 else 0 := by
  rw [callsAlong, if_pos h, Nat.add_comm]
  split
  · next r hr => simp [hr]
  · next hr => simp [hr]

theorem callsAlong_of_not_isLink {n : Node} (h : ¬isLink n) : callsAlong n = 0 := by
  rw [callsAlong, if_neg h]

end CallChain

namespace Cst.Site

open CallChain

/-- Whether a site is that of a call. -/
def isCall (s : Site) : Bool := s.node.kind == .call

/-- **Whether a chain begins at a site**: a link that is the root or has a parent that is none. -/
def isHead (s : Site) : Bool := isLink s.node && !s.parent?.any isLink

/-- **The heads of the chains of a tree**, in document order. -/
def heads (s : Site) : List Site := s.sites.filter isHead

/-- The site of the node that a link is applied to. -/
def receiver? (s : Site) : Option Site :=
  s.children.find? fun t => t.node.role == some (if s.node.kind = .call then .callee else .operand)

theorem mem_children_of_receiver? {s r : Site} (h : s.receiver? = some r) : r ∈ s.children :=
  List.mem_of_find?_eq_some h

theorem map_node_receiver? (s : Site) : s.receiver?.map node = CallChain.receiver? s.node := by
  unfold receiver? CallChain.receiver? Node.childWithRole?
  rw [← map_node_children]
  split <;> rw [List.find?_map] <;> rfl

/-- **The run from a site**: the links from receiver to receiver. -/
def run (s : Site) : List Site :=
  if isLink s.node then
    s :: match _h : s.receiver? with
      | some r => r.run
      | none => []
  else []
termination_by s.node.size
decreasing_by exact Node.size_lt_of_mem_children (node_mem_children (mem_children_of_receiver? _h))

theorem run_of_isLink {s : Site} (h : isLink s.node) :
    s.run = s :: s.receiver?.toList.flatMap run := by
  rw [run, if_pos h]
  split
  · next r hr => simp [hr]
  · next hr => simp [hr]

theorem run_of_not_isLink {s : Site} (h : ¬isLink s.node) : s.run = [] := by
  rw [run, if_neg h]

/-- The number of calls on the run from a site. -/
def calls (s : Site) : Nat := s.run.countP isCall

theorem callsAlong_node (s : Site) : callsAlong s.node = s.calls := by
  induction s using run.induct with
  | case1 s hs ih =>
    have hreceiver : total callsAlong (CallChain.receiver? s.node).toList =
        (s.receiver?.toList.flatMap run).countP isCall := by
      rw [← map_node_receiver?]
      cases hr : s.receiver? with
      | none => rfl
      | some r => simpa [calls] using ih r hr
    rw [callsAlong_of_isLink hs, hreceiver, calls, run_of_isLink hs, List.countP_cons]
    simp only [isCall, beq_iff_eq]
  | case2 s hs =>
    rw [callsAlong_of_not_isLink hs, calls, run_of_not_isLink hs, List.countP_nil]

/-! ### The traversal finds the heads -/

/-- A site as the traversal keeps it. -/
def pending (s : Site) : CallChain.Pending := ⟨s.node, s.parent?.any isLink⟩

@[simp] theorem node_pending (s : Site) : s.pending.node = s.node := rfl

theorem isHead_eq (s : Site) : s.isHead = (isLink s.node && !s.pending.insideLink) := rfl

theorem siblings_children (s : Site) :
    siblings (isLink s.node) s.node.children = s.children.map pending := by
  have hpending : ∀ t ∈ s.children, pending t = ⟨t.node, isLink s.node⟩ := by
    intro t ht
    rw [pending, parent?_of_mem_children ht, Option.any_some]
  rw [siblings, ← map_node_children, List.map_map, List.map_congr_left hpending]
  rfl

/-- The lengths of the chains that begin at some sites, those without a call left out. -/
def lengths (hs : List Site) : List Nat := (hs.map calls).filter (0 < ·)

theorem lengths_append (hs ts : List Site) : lengths (hs ++ ts) = lengths hs ++ lengths ts := by
  simp [lengths]

theorem heads_eq (s : Site) :
    s.heads = (if s.isHead then [s] else []) ++ s.children.flatMap heads := by
  rw [heads, sites_eq, List.filter_cons, List.filter_flatMap]
  split <;> rfl

/-- One step of the traversal: the chain of a head, if it has a call, and then the children. -/
theorem chainsAmong_cons (s : Site) (ss : List Site) :
    chainsAmong ((s :: ss).map pending) =
      lengths (if s.isHead then [s] else []) ++ chainsAmong ((s.children ++ ss).map pending) := by
  rw [List.map_cons, chainsAmong, List.map_append, ← siblings_children]
  simp only [node_pending, ← isHead_eq, callsAlong_node]
  cases s.isHead with
  | false => rfl
  | true => by_cases h : 0 < s.calls <;> simp [lengths, h]

/-- **The traversal lists the chains of the heads**, in document order. -/
theorem chainsAmong_pending (ss : List Site) :
    chainsAmong (ss.map pending) = lengths (ss.flatMap heads) := by
  induction hn : pendingSize (ss.map pending) using Nat.strongRecOn generalizing ss with
  | ind n ih =>
    cases ss with
    | nil => rw [List.map_nil, chainsAmong]; rfl
    | cons s ss =>
      have hlt : pendingSize ((s.children ++ ss).map pending) < n := by
        rw [← hn, List.map_append, pendingSize_append, ← siblings_children, pendingSize_siblings]
        simp [pendingSize, pending, Node.size_eq s.node]
      rw [chainsAmong_cons, ih _ hlt _ rfl, ← lengths_append, List.flatMap_cons, heads_eq,
        List.flatMap_append, List.append_assoc]

/-! ### The runs partition the links -/

/-- **Whether the links among the children of a link are its receiver**: no link stands in another
one in a different role. -/
def LinksReceived (s : Site) : Prop :=
  isLink s.node → ∀ c ∈ s.children, isLink c.node → s.receiver? = some c

/-- The runs from the children of a link are the run from its receiver. -/
theorem LinksReceived.flatMap_run {s : Site} (h : s.LinksReceived) (hs : isLink s.node) :
    s.children.flatMap run = s.receiver?.toList.flatMap run := by
  have hrun : ∀ c ∈ s.children, s.receiver? ≠ some c → c.run = [] := by
    intro c hc hne
    exact run_of_not_isLink fun hlink => hne (h hs c hc hlink)
  cases hr : s.receiver? with
  | none =>
    refine List.flatMap_eq_nil_iff.2 fun c hc => hrun c hc ?_
    simp [hr]
  | some r =>
    obtain ⟨as, bs, hsplit⟩ := List.append_of_mem (mem_children_of_receiver? hr)
    -- the receiver comes once among the children, so none of the others has a run
    have hr_notMem : r ∉ as ++ bs := by
      have hnodup := nodup_children s
      rw [hsplit, List.nodup_middle, List.nodup_cons] at hnodup
      exact hnodup.1
    have hothers : ∀ c ∈ as ++ bs, c.run = [] := by
      intro c hc
      refine hrun c ?_ fun hrc => hr_notMem ?_
      · rw [hsplit]
        exact List.mem_append.2 ((List.mem_append.1 hc).imp_right (List.mem_cons_of_mem r))
      · exact Option.some.inj (hr.symm.trans hrc) ▸ hc
    have has : as.flatMap run = [] :=
      List.flatMap_eq_nil_iff.2 fun c hc => hothers c (List.mem_append_left bs hc)
    have hbs : bs.flatMap run = [] :=
      List.flatMap_eq_nil_iff.2 fun c hc => hothers c (List.mem_append_right as hc)
    rw [hsplit, List.flatMap_append, List.flatMap_cons, has, hbs]
    simp

/-- The run that comes down to a site from its parent. -/
def inherited (s : Site) : List Site := if s.parent?.any isLink then s.run else []

theorem flatMap_inherited_children {s : Site} (h : s.LinksReceived) :
    s.children.flatMap inherited =
      if isLink s.node then s.receiver?.toList.flatMap run else [] := by
  have hinherited : ∀ c ∈ s.children, c.inherited = if isLink s.node then c.run else [] := by
    intro c hc
    rw [inherited, parent?_of_mem_children hc, Option.any_some]
  rw [List.flatMap_congr hinherited]
  split
  · next hs => exact h.flatMap_run hs
  · exact List.flatMap_eq_nil_iff.2 fun _ _ => rfl

/-- The run through a site comes down from its parent or begins with it. -/
theorem inherited_append_run {s : Site} (h : s.LinksReceived) :
    s.inherited ++ (if s.isHead then s.run else []) =
      (if isLink s.node then [s] else []) ++ s.children.flatMap inherited := by
  rw [flatMap_inherited_children h, inherited, isHead]
  by_cases hs : isLink s.node
  · cases s.parent?.any isLink <;> simp [hs, run_of_isLink]
  · simp [hs, run_of_not_isLink]

/-- **The runs from the heads are the links**, each once, together with the run that comes down from
the parent. -/
theorem inherited_append_runs_perm {s : Site} (h : ∀ t ∈ s.sites, t.LinksReceived) :
    (s.inherited ++ s.heads.flatMap run).Perm (s.sites.filter fun t => isLink t.node) := by
  induction s using sites.induct with
  | case1 s ih =>
    have hbelow : (s.children.flatMap inherited ++
        s.children.flatMap fun t => t.heads.flatMap run).Perm
          (s.children.flatMap fun t => t.sites.filter fun u => isLink u.node) := by
      refine (List.flatMap_append_perm _ _ _).trans (List.Perm.flatMap_left _ fun t ht => ?_)
      exact ih ⟨t, ht⟩ fun u hu => h u (mem_sites_of_mem_children ht hu)
    have hruns : s.heads.flatMap run = (if s.isHead then s.run else []) ++
        s.children.flatMap fun t => t.heads.flatMap run := by
      rw [heads_eq, List.flatMap_append, List.flatMap_assoc]
      split <;> simp
    have hlinks : (s.sites.filter fun t => isLink t.node) = (if isLink s.node then [s] else []) ++
        s.children.flatMap fun t => t.sites.filter fun u => isLink u.node := by
      rw [sites_eq, List.filter_cons, List.filter_flatMap]
      split <;> rfl
    rw [hruns, ← List.append_assoc, inherited_append_run (h s (mem_sites_self s)),
      List.append_assoc, hlinks]
    exact hbelow.append_left _

theorem isLink_of_isCall {s : Site} (h : s.isCall) : isLink s.node := by
  rw [isLink, Bool.or_eq_true]
  exact Or.inl h

/-- Chains without a call do not matter for the number of calls. -/
theorem sum_lengths (hs : List Site) : (lengths hs).sum = (hs.flatMap run).countP isCall := by
  induction hs with
  | nil => rfl
  | cons s hs ih =>
    rw [← List.singleton_append, lengths_append, List.sum_append, ih, List.singleton_append,
      List.flatMap_cons, List.countP_append]
    congr 1
    change (lengths [s]).sum = s.calls
    by_cases h : 0 < s.calls
    · simp [lengths, h]
    · simp [lengths, Nat.eq_zero_of_not_pos h]

end Cst.Site

namespace CallChain

open Site

section

variable {root : Node} (h : ∀ s ∈ (Site.root root).sites, s.LinksReceived)
include h

/-- In a tree in which links receive links, the runs from the heads are the links, each once. -/
theorem runs_perm : ((Site.root root).heads.flatMap run).Perm
    ((Site.root root).sites.filter fun s => isLink s.node) :=
  inherited_append_runs_perm h

/-- Every link lies on the run of one head only. -/
theorem existsUnique_head {s : Site} (hs : s ∈ (Site.root root).sites) (hlink : isLink s.node) :
    ∃! t, t ∈ (Site.root root).heads ∧ s ∈ t.run := by
  have hperm := runs_perm h
  have hmem : s ∈ (Site.root root).heads.flatMap run :=
    hperm.mem_iff.2 (List.mem_filter.2 ⟨hs, hlink⟩)
  obtain ⟨t, ht, hst⟩ := List.mem_flatMap.1 hmem
  have hnodup : ((Site.root root).heads.flatMap run).Nodup :=
    hperm.nodup_iff.2 ((nodup_sites _).filter _)
  have hdisjoint := (List.nodup_flatMap.1 hnodup).2
  have : Std.Symm (Function.onFun List.Disjoint run) := ⟨fun _ _ hd _ hu ht => hd ht hu⟩
  refine ⟨t, ⟨ht, hst⟩, fun u hu => ?_⟩
  by_contra hne
  exact hdisjoint.forall hu.1 ht hne hu.2 hst

/-- All calls are on the runs. -/
theorem sum_callChains : (lengths (Site.root root).heads).sum =
    root.nodes.countP fun n => n.kind == .call := by
  have hnodes : root.nodes = (Site.root root).sites.map Site.node :=
    (map_node_sites (Site.root root)).symm
  rw [sum_lengths, (runs_perm h).countP_eq, List.countP_filter, hnodes, List.countP_map]
  refine List.countP_congr fun s _ => ?_
  simp only [Bool.and_eq_true]
  exact ⟨fun hs => hs.1, fun hs => ⟨hs, isLink_of_isCall hs⟩⟩

end

/-- **Call chains partition the calls.** The chains of a tree are those of its heads, in document
order, each as long as there are calls on its run, and without the runs that have none. If no link
stands in another one except as its receiver, every call lies on the run of one head and no other,
so the lengths of the chains add up to the number of calls of the tree. -/
theorem callChains_partition (root : Node) :
    callChains root = ((Site.root root).heads.map Site.calls).filter (0 < ·) ∧
      ((∀ s ∈ (Site.root root).sites, s.LinksReceived) →
        (∀ s ∈ (Site.root root).sites, s.isCall →
          ∃! t, t ∈ (Site.root root).heads ∧ s ∈ t.run) ∧
        (∀ n ∈ callChains root, 0 < n) ∧
        (callChains root).sum = root.nodes.countP fun n => n.kind == .call) := by
  have hchains : callChains root = lengths (Site.root root).heads := by
    have hroot := chainsAmong_pending [Site.root root]
    rw [List.flatMap_singleton] at hroot
    exact hroot
  refine ⟨hchains, fun h => ⟨fun s hs hcall => ?_, fun n hn => ?_, ?_⟩⟩
  · exact existsUnique_head h hs (isLink_of_isCall hcall)
  · rw [hchains] at hn
    simpa using (List.mem_filter.1 hn).2
  · rw [hchains]
    exact sum_callChains h

/-- The call `run(a.b().c(), x.y)`: the first argument is a chain of two calls, the second a chain
without a call. -/
def chainedCall : Node :=
  .bare .call none [
    .identifier .callee "run",
    .bare .other none [
      .bare .call none [
        .bare .fieldAccess (some .callee) [
          .bare .call (some .operand) [
            .bare .fieldAccess (some .callee) [.identifier .operand "a", .identifier .name "b"],
            .bare .other none []],
          .identifier .name "c"],
        .bare .other none []],
      .bare .fieldAccess none [.identifier .operand "x", .identifier .name "y"]]]

theorem callChains_partition_chainedCall :
    (∀ s ∈ (Site.root chainedCall).sites, s.LinksReceived) ∧ callChains chainedCall = [1, 2] ∧
      (callChains chainedCall).sum = chainedCall.nodes.countP fun n => n.kind == .call := by
  have h : ∀ s ∈ (Site.root chainedCall).sites, s.LinksReceived := by
    simp [chainedCall, Site.root, Node.bare, Node.identifier, sites_eq, Site.children,
      LinksReceived, Site.receiver?, isLink, -List.mem_mapIdx]
  exact ⟨h, by cbv, ((callChains_partition chainedCall).2 h).2.2⟩

end CallChain

end CodeMetrics
