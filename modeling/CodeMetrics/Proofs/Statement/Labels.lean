import CodeMetrics.Proofs.Metrics.Contribution
import CodeMetrics.Proofs.Statement.Nested
import Mathlib.Algebra.Order.Group.Multiset

/-!
# The labels of a switch

Which case labels does a switch count? Those that are items of its body, also when they stand in
groups of conditional compilation: `Build.Visit.switchLabels`. Every other case label that building
meets is rejected, whether there is a switch around it or not; braces, a loop, an `if`, a goto label
or another case label between a switch and a label cut the label off.

This file shows that nothing is counted twice and nothing is lost. The labels among the items are
divided among the switches (`Build.Visit.filter_isLabel_perm`), and the switch statements of a body
are the switches that are met, each with the number of its labels and with whether one of them is a
default label (`Build.Visit.switches_statements_perm`).

Both are statements about all visits that follow from one about a single visit, by
`Build.Visit.sum_visits_of_step`: what a visit has is either its own or handed on to it by the
visits it leads to. The labels of a group are handed on until they come to a switch.
-/

namespace CodeMetrics

/-- What a switch statement says about its labels, and where it stands. -/
structure LabelledSwitch where
  span : Span
  caseCount : Nat
  hasDefault : Bool

namespace Statement

/-- The labels of a statement that is a switch. -/
def labelled? (s : Statement) : Option LabelledSwitch :=
  match s.kind with
  | .switch caseCount hasDefault _ _ => some ⟨s.span, caseCount, hasDefault⟩
  | _ => none

/-- **The switches among statements**, however deep. -/
def switches (ss : List Statement) : List LabelledSwitch := (allWithin ss).filterMap labelled?

@[simp] theorem switches_nil : switches [] = [] := rfl

theorem switches_append (ss ts : List Statement) :
    switches (ss ++ ts) = switches ss ++ switches ts := by
  rw [switches, allWithin, List.flatMap_append, List.filterMap_append]
  rfl

theorem switches_singleton (s : Statement) :
    switches [s] = s.labelled?.toList ++ switches s.nested := by
  rw [switches, allWithin, List.flatMap_singleton, within_eq, ← List.singleton_append,
    List.filterMap_append]
  refine congrArg (· ++ _) ?_
  cases h : s.labelled? <;> simp [h]

theorem switches_flatMap {α : Type} (f : α → List Statement) (as : List α) :
    switches (as.flatMap f) = as.flatMap fun a => switches (f a) := by
  induction as with
  | nil => rfl
  | cons a as ih => rw [List.flatMap_cons, switches_append, ih, List.flatMap_cons]

end Statement

namespace Build.Visit

open Cst Statement

/-! ### Sums over all visits -/

section

variable {M : Type} [AddCommMonoid M]

theorem sum_visits (f : Visit → M) (v : Visit) :
    (v.visits.map f).sum = f v + (v.next.map fun w => (w.visits.map f).sum).sum := by
  rw [visits_eq, List.map_cons, List.sum_cons, List.map_flatMap, List.flatMap, List.sum_flatten,
    List.map_map]
  rfl

/-- **From one visit to all of them.** If at each visit what is its `own` and what is `pending` from
the visits it leads to make up its `other` part and what is `pending` from it, then over all visits
the `own` parts make up the `other` parts and what is `pending` from the first. -/
theorem sum_visits_of_step {own other pending : Visit → M}
    (h : ∀ v, own v + (v.next.map pending).sum = other v + pending v) (v : Visit) :
    (v.visits.map own).sum = (v.visits.map other).sum + pending v := by
  induction v using visits.induct with
  | case1 v ih =>
    have hnext : (v.next.map fun w => (w.visits.map own).sum).sum =
        (v.next.map fun w => (w.visits.map other).sum).sum + (v.next.map pending).sum := by
      rw [← List.sum_map_add]
      exact congrArg List.sum (List.map_congr_left fun w hw => ih ⟨w, hw⟩)
    -- what is pending between two visits is on both sides, and goes
    calc (v.visits.map own).sum
      _ = own v + (v.next.map pending).sum +
          (v.next.map fun w => (w.visits.map other).sum).sum := by
        rw [sum_visits, hnext]
        abel
      _ = (v.visits.map other).sum + pending v := by
        rw [h v, sum_visits other]
        abel

theorem sum_coe {α β : Type} (f : α → List β) (as : List α) :
    (as.map fun a => (f a : Multiset β)).sum = (as.flatMap f : List β) := by
  induction as with
  | nil => rfl
  | cons a as ih => rw [List.map_cons, List.sum_cons, ih, List.flatMap_cons, Multiset.coe_add]

end

/-! ### Labels -/

/-- Whether the node is a case label among the items of a switch. -/
def isLabel (v : Visit) : Bool := v.construct = .case && v.position = .item

/-- Whether a label has a value; a default label has none. -/
def hasValue (v : Visit) : Bool := (v.node.childWithRole? .value).isSome

/-- **The labels that an item brings to its switch**: itself, or those of the items of a group. -/
def labels (v : Visit) : List Visit :=
  match v.construct with
  | .case => [v]
  | .group => v.next.attach.flatMap fun w => w.1.labels
  | _ => []
termination_by v.node.size
decreasing_by exact Node.size_lt_of_mem_nodesBelow (mem_nodesBelow_of_mem_next w.2)

theorem labels_eq (v : Visit) :
    v.labels =
      match v.construct with
      | .case => [v]
      | .group => v.next.flatMap labels
      | _ => [] := by
  rw [labels]
  cases v.construct <;> simp

/-- **The labels of a switch.** -/
def switchLabels (v : Visit) : List Visit :=
  if v.construct = .switch then v.items.flatMap labels else []

theorem construct_of_mem_labels {v w : Visit} (h : w ∈ v.labels) : w.construct = .case := by
  induction v using labels.induct with
  | case1 v hc =>
    rw [labels_eq, hc] at h
    rwa [List.mem_singleton.1 h]
  | case2 v hc ih =>
    rw [labels_eq, hc] at h
    obtain ⟨u, hu, hw⟩ := List.mem_flatMap.1 h
    exact ih ⟨u, hu⟩ hw
  | case3 v hcase hgroup =>
    rw [labels_eq] at h
    cases hc : v.construct <;> simp_all

theorem node_mem_nodes_of_mem_labels {v w : Visit} (h : w ∈ v.labels) :
    w.node ∈ v.node.nodes := by
  induction v using labels.induct with
  | case1 v hc =>
    rw [labels_eq, hc] at h
    rw [List.mem_singleton.1 h]
    exact Node.mem_nodes_self _
  | case2 v hc ih =>
    rw [labels_eq, hc] at h
    obtain ⟨u, hu, hw⟩ := List.mem_flatMap.1 h
    have hu' := Node.nodesBelow_subset_nodes _ (mem_nodesBelow_of_mem_next hu)
    exact Node.nodes_subset_of_mem hu' (ih ⟨u, hu⟩ hw)
  | case3 v hcase hgroup =>
    rw [labels_eq] at h
    cases hc : v.construct <;> simp_all

/-- A label of a switch lies below the switch. -/
theorem node_mem_nodesBelow_of_mem_switchLabels {v w : Visit} (h : w ∈ v.switchLabels) :
    v.construct = .switch ∧ w.construct = .case ∧ w.node ∈ v.node.nodesBelow := by
  rw [switchLabels] at h
  split at h
  · next hc =>
    obtain ⟨u, hu, hw⟩ := List.mem_flatMap.1 h
    refine ⟨hc, construct_of_mem_labels hw, ?_⟩
    exact Node.nodesBelow_subset_of_mem (mem_nodesBelow_of_mem_items hu)
      (node_mem_nodes_of_mem_labels hw)
  · cases h

/-! ### Every label has one switch -/

/-- The labels that a visit hands on to the switch that it is an item of. -/
def pendingLabels (v : Visit) : List Visit := if v.position = .item then v.labels else []

theorem pendingLabels_of_position {v : Visit} (hp : v.position ≠ .item) : v.pendingLabels = [] :=
  if_neg hp

theorem flatMap_pendingLabels_of_position {vs : List Visit} (h : ∀ v ∈ vs, v.position ≠ .item) :
    vs.flatMap pendingLabels = [] := by
  refine List.flatMap_eq_nil_iff.2 fun v hv => ?_
  exact pendingLabels_of_position (h v hv)

theorem flatMap_pendingLabels_of_item {vs : List Visit} (h : ∀ v ∈ vs, v.position = .item) :
    vs.flatMap pendingLabels = vs.flatMap labels :=
  List.flatMap_congr fun v hv => if_pos (h v hv)

theorem position_of_mem_conditionLambdas {v w : Visit} (h : w ∈ v.conditionLambdas) :
    w.position = .lambda := by
  obtain ⟨c, -, hw⟩ := List.mem_flatMap.1 h
  obtain ⟨l, -, rfl⟩ := List.mem_map.1 hw
  rfl

theorem position_of_mem_items {v w : Visit} (h : w ∈ v.items) : w.position = .item := by
  obtain ⟨b, -, hw⟩ := List.mem_flatMap.1 h
  obtain ⟨c, -, rfl⟩ := List.mem_map.1 hw
  rfl

/-- Only a switch and a group in a switch lead to items. -/
theorem position_of_mem_next {v w : Visit} (hs : v.construct ≠ .switch)
    (hg : v.construct = .group → v.position ≠ .item) (h : w ∈ v.next) : w.position ≠ .item := by
  intro hw
  rw [next] at h
  cases hc : v.construct <;> simp only [hc] at h
  case switch => exact hs hc
  case group =>
    obtain ⟨n, -, rfl⟩ := List.mem_map.1 h
    exact hg hc (by_contra fun hp => by simp [beside, groupPosition, hp] at hw)
  case directive | clause => cases h
  case lambda | braces | labeled | case | plain =>
    obtain ⟨n, -, rfl⟩ := List.mem_map.1 h
    simp [beside] at hw
  case ifElse =>
    simp only [List.mem_append] at h
    rcases h with (h | h) | h
    · simp [position_of_mem_conditionLambdas h] at hw
    · obtain ⟨n, -, rfl⟩ := List.mem_map.1 h
      simp [below] at hw
    · obtain ⟨n, -, rfl⟩ := List.mem_map.1 h
      rw [visitAlternative] at hw
      split at hw <;> simp [below, beside] at hw
  case loop =>
    rcases List.mem_append.1 h with h | h
    · obtain ⟨c, -, h⟩ := List.mem_flatMap.1 h
      obtain ⟨n, -, rfl⟩ := List.mem_map.1 h
      simp [beside] at hw
    · obtain ⟨n, -, rfl⟩ := List.mem_map.1 h
      simp [below] at hw
  case tryCatch =>
    rcases List.mem_append.1 h with h | h
    · obtain ⟨n, -, rfl⟩ := List.mem_map.1 h
      simp [below] at hw
    · obtain ⟨ws, hws, h⟩ := List.mem_flatten.1 h
      obtain ⟨c, -, rfl⟩ := List.mem_map.1 hws
      obtain ⟨n, -, rfl⟩ := List.mem_map.1 h
      simp [below] at hw

/-- **One visit hands its labels on**: it is a label itself, or a switch that takes those of its
items, or it passes on what it gets. -/
theorem own_label_add (v : Visit) :
    (if v.isLabel then [v] else []) ++ v.next.flatMap pendingLabels =
      v.switchLabels ++ v.pendingLabels := by
  by_cases hs : v.construct = .switch
  · have hn : v.next = v.conditionLambdas ++ v.items := by simp [next, hs]
    have hlambdas : v.conditionLambdas.flatMap pendingLabels = [] :=
      flatMap_pendingLabels_of_position fun w hw => by simp [position_of_mem_conditionLambdas hw]
    have hitems : v.items.flatMap pendingLabels = v.items.flatMap labels :=
      flatMap_pendingLabels_of_item fun w => position_of_mem_items
    have hown : v.pendingLabels = [] := by
      rw [pendingLabels, labels_eq, hs]
      exact ite_self _
    rw [hn, List.flatMap_append, hlambdas, hitems, hown, switchLabels, if_pos hs]
    simp [isLabel, hs]
  · rw [switchLabels, if_neg hs]
    by_cases hg : v.construct = .group ∧ v.position = .item
    -- a group among the items passes the labels of its items on
    · have hnext : ∀ w ∈ v.next, w.position = .item := by
        intro w hw
        simp only [next, hg.1] at hw
        obtain ⟨n, -, rfl⟩ := List.mem_map.1 hw
        simp [beside, groupPosition, hg.2]
      rw [flatMap_pendingLabels_of_item hnext, pendingLabels, if_pos hg.2, labels_eq, hg.1]
      simp [isLabel, hg.1]
    · have hnext : v.next.flatMap pendingLabels = [] :=
        flatMap_pendingLabels_of_position fun w =>
          position_of_mem_next hs fun h hp => hg ⟨h, hp⟩
      rw [hnext, pendingLabels, labels_eq]
      by_cases hp : v.position = .item
      · cases hc : v.construct <;> simp_all [isLabel]
      · simp [isLabel, hp]

/-- **Every label among the items belongs to one switch**, and to one only. -/
theorem filter_isLabel_perm {v : Visit} (hp : v.position ≠ .item) :
    (v.visits.filter isLabel).Perm (v.visits.flatMap switchLabels) := by
  have hstep : ∀ v : Visit, ((if v.isLabel then [v] else [] : List Visit) : Multiset Visit) +
      (v.next.map fun w => (w.pendingLabels : Multiset Visit)).sum =
        (v.switchLabels : Multiset Visit) + (v.pendingLabels : Multiset Visit) := by
    intro v
    rw [sum_coe, Multiset.coe_add, Multiset.coe_add, own_label_add]
  have hsum := sum_visits_of_step hstep v
  have hfilter : v.visits.filter isLabel =
      v.visits.flatMap fun v => if v.isLabel then [v] else [] := by
    induction v.visits with
    | nil => rfl
    | cons w ws ih => cases h : w.isLabel <;> simp [h, ih]
  rw [sum_coe, sum_coe, pendingLabels_of_position hp, Multiset.coe_nil, add_zero] at hsum
  rw [hfilter]
  exact Multiset.coe_eq_coe.1 hsum

/-! ### What a switch counts -/

/-- The number of labels with a value, and whether there is a default label. -/
def summarize (ws : List Visit) : CaseLabels where
  count := ws.countP hasValue
  hasDefault := ws.any fun w => !w.hasValue

theorem summarize_append (vs ws : List Visit) :
    summarize (vs ++ ws) = (summarize vs).append (summarize ws) := by
  simp [summarize, CaseLabels.append]

theorem joinLabels_eq_summarize {vs : List Visit}
    (h : ∀ v ∈ vs, itemLabels v.node = summarize v.labels) :
    joinLabels (vs.map fun v => itemLabels v.node) = summarize (vs.flatMap labels) := by
  induction vs with
  | nil => rfl
  | cons v vs ih =>
    have hrest := ih fun w hw => h w (List.mem_cons_of_mem v hw)
    rw [List.flatMap_cons, summarize_append, ← hrest, ← h v List.mem_cons_self]
    rfl

/-- What an item brings to its switch is the number and the sort of its labels. -/
theorem itemLabels_eq_summarize {v : Visit} (hp : v.position = .item) :
    itemLabels v.node = summarize v.labels := by
  have hkind : v.construct = .ofKind v.node.kind := construct_of_position (by simp [hp])
  induction v using labels.induct with
  | case1 v hc =>
    have hk : v.node.kind = .case := by
      cases hk : v.node.kind <;> simp_all [Construct.ofKind]
    rw [itemLabels_eq, if_pos hk, labels_eq, hc, caseLabel]
    cases hv : v.node.childWithRole? .value <;> simp [summarize, hasValue, hv]
  | case2 v hc ih =>
    have hk : v.node.kind = .conditionalGroup := by
      cases hk : v.node.kind <;> simp_all [Construct.ofKind]
    have hn : v.next = (groupItems v.node).map (v.beside .item) := by
      simp [next, hc, groupPosition, hp]
    have hmap : (groupItems v.node).map itemLabels = v.next.map fun w => itemLabels w.node := by
      rw [hn, List.map_map]
      rfl
    rw [itemLabels_eq, if_neg (by simp [hk]), if_pos hk, labels_eq, hc, hmap]
    refine joinLabels_eq_summarize fun w hw => ?_
    have hw' : w.position = .item := by
      rw [hn] at hw
      obtain ⟨n, -, rfl⟩ := List.mem_map.1 hw
      rfl
    exact ih ⟨w, hw⟩ hw' (construct_of_position (by simp [hw']))
  | case3 v hcase hgroup =>
    have hk : v.node.kind ≠ .case ∧ v.node.kind ≠ .conditionalGroup := by
      constructor <;> intro hk <;> simp_all [Construct.ofKind]
    rw [itemLabels_eq, if_neg hk.1, if_neg hk.2, labels_eq]
    cases hc : v.construct <;> simp_all [summarize]

/-- What a visited switch says about its labels. -/
def labelled? (v : Visit) : Option LabelledSwitch :=
  if v.construct = .switch then
    some ⟨v.node.span, v.switchLabels.countP hasValue, v.switchLabels.any fun w => !w.hasValue⟩
  else none

theorem labelled?_of_ne {v : Visit} (hc : v.construct ≠ .switch) : v.labelled? = none := if_neg hc

/-! ### The switches of the statements -/

theorem switches_block (n : Node) (d : Nat) (ss : List Statement) :
    switches [block n d ss] = switches ss := by
  rw [switches_singleton]
  rfl

theorem switches_of_switch {v : Visit} (hc : v.construct = .switch) :
    (switches v.statements).Perm (v.labelled?.toList ++ switches (v.next.flatMap statements)) := by
  have hlabels :
      joinLabels (v.items.map fun w => itemLabels w.node) = summarize v.switchLabels := by
    rw [switchLabels, if_pos hc]
    exact joinLabels_eq_summarize fun w hw => itemLabels_eq_summarize (position_of_mem_items hw)
  have hn : v.next = v.conditionLambdas ++ v.items := by simp [next, hc]
  rw [statements_eq]
  simp only [statementsWith, hc, hlabels]
  rw [switches_append, switches_singleton, hn, List.flatMap_append, switches_append, labelled?,
    if_pos hc]
  -- the lambdas of the condition stand before the switch
  exact List.perm_append_comm_assoc _ _ _

/-- The switches of a ladder: those of the lambdas of its conditions, of its arms, and of its last
alternative. -/
theorem switches_of_ifElse {v : Visit} (hc : v.construct = .ifElse) :
    switches v.statements =
      (v.rungs.flatMap fun r => switches (r.conditionLambdas.flatMap statements)) ++
        ((v.rungs.flatMap fun r =>
            switches ((r.enclosed r.node .consequence).flatMap statements)) ++
          switches (v.otherwise?.toList.flatMap statements)) := by
  have hother : (v.otherwise?.map statements).getD [] = v.otherwise?.toList.flatMap statements := by
    cases v.otherwise? <;> simp
  rw [statements_eq]
  simp only [statementsWith, hc]
  rw [switches_append, switches_singleton, switches_flatMap, List.flatMap_map]
  congr 1
  rw [Statement.nested, Statement.kind]
  dsimp only
  rw [switches_append, hother, switches_flatMap, List.flatMap_map, List.flatMap_map]
  rfl

theorem switches_of_rung {v : Visit} (hc : v.construct = .ifElse) (hp : v.position = .rung) :
    (switches v.statements).Perm (switches (v.next.flatMap statements)) := by
  refine Multiset.coe_eq_coe.1 ?_
  rw [switches_of_ifElse hc, next_of_ifElse hc, armParts, rungs_eq hp]
  cases hn : ladderNext v.node with
  | next m =>
    -- what is left of the ladder is the ladder of the next `if`
    have ha := alternative?_of_ladderNext v.node
    rw [hn] at ha
    have hm : (v.beside .rung m).construct = .ifElse := by
      simp [construct, beside, ha.2, Construct.ofKind]
    have hr : (v.beside .rung m).rungs = (m :: (ladder m).1).map (v.beside .rung) := rfl
    have ho : (v.beside .rung m).otherwise? = v.ofEnd? (ladder m).2 := ofEnd?_beside_rung v m _
    rw [followers, hn, otherwise?, ladder_of_next hn]
    simp only [List.flatMap_append, switches_append, List.flatMap_cons, List.flatMap_nil,
      List.append_nil, switches_of_ifElse hm, hr, ho, List.map_cons, ← Multiset.coe_add]
    abel
  | done e =>
    rw [followers, hn, otherwise?, ladder_of_done hn]
    simp only [List.flatMap_append, switches_append, List.flatMap_cons, List.map_nil,
      List.flatMap_nil, List.append_nil, ← Multiset.coe_add]
    abel

/-- **One visit has the switches of those it leads to**, and is one more if it is a switch. -/
theorem switches_statements (v : Visit) :
    (switches v.statements).Perm (v.labelled?.toList ++ switches (v.next.flatMap statements)) := by
  by_cases hs : v.construct = .switch
  · exact switches_of_switch hs
  rw [labelled?_of_ne hs, Option.toList_none, List.nil_append]
  by_cases hi : v.construct = .ifElse
  -- a ladder has the same switches whichever way its first `if` is met
  · have hr : (v.beside .rung v.node).construct = .ifElse := by
      simp [construct, beside, kind_of_ifElse hi, Construct.ofKind]
    have hsame : switches (v.beside .rung v.node).statements = switches v.statements := by
      rw [switches_of_ifElse hr, switches_of_ifElse hi]
      rfl
    have hnext : (v.beside .rung v.node).next = v.next := by
      rw [next_of_ifElse hr, next_of_ifElse hi]
      rfl
    rw [← hsame, ← hnext]
    exact switches_of_rung hr rfl
  refine List.Perm.of_eq ?_
  rw [statements_eq]
  cases hc : v.construct <;> simp only [statementsWith, hc]
  case switch => exact absurd hc hs
  case ifElse => exact absurd hc hi
  case directive | clause => simp [next, hc]
  case lambda | group => exact switches_block _ _ _
  case braces =>
    split
    · rfl
    · exact switches_block _ _ _
  case loop =>
    rw [switches_append, switches_singleton]
    simp only [next, hc, List.flatMap_append, switches_append]
    rfl
  case tryCatch =>
    have hh : (v.handlers.map fun ws => ws.flatMap statements).flatten =
        v.handlers.flatten.flatMap statements := by
      rw [List.flatMap_def, List.map_flatten, List.flatten_flatten, List.map_map]
      rfl
    rw [switches_singleton, next, hc]
    simp only [List.flatMap_append, ← hh]
    rfl
  case plain =>
    rw [← List.singleton_append, switches_append, switches_singleton]
    rfl

/-- **The switch statements of a visit are the switches that are met from it on**, each with its
labels. -/
theorem switches_statements_perm (v : Visit) :
    (switches v.statements).Perm (v.visits.filterMap labelled?) := by
  have hstep : ∀ v : Visit, (v.labelled?.toList : Multiset LabelledSwitch) +
      (v.next.map fun w => (switches w.statements : Multiset LabelledSwitch)).sum =
        0 + (switches v.statements : Multiset LabelledSwitch) := by
    intro v
    rw [sum_coe, Multiset.coe_add, ← switches_flatMap, zero_add]
    exact Multiset.coe_eq_coe.2 (switches_statements v).symm
  have hsum := sum_visits_of_step hstep v
  rw [sum_coe, List.map_const', List.sum_replicate, nsmul_zero, zero_add] at hsum
  rw [List.filterMap_eq_flatMap_toList]
  exact Multiset.coe_eq_coe.1 hsum.symm

/-! ### Labels that are taken, and labels that are not -/

/-- Whether one of the visits is a switch that has the node among its labels. -/
def TakenBy (vs : List Visit) (w : Visit) : Prop := ∃ s ∈ vs, w ∈ s.switchLabels

/-- A case label is taken by a switch exactly if it is met among items. -/
theorem takenBy_iff {v w : Visit} (hv : v.position ≠ .item) (hw : w ∈ v.visits)
    (hc : w.construct = .case) : TakenBy v.visits w ↔ w.position = .item := by
  have hmem := (filter_isLabel_perm hv).mem_iff (a := w)
  rw [List.mem_filter, List.mem_flatMap] at hmem
  rw [TakenBy, ← hmem]
  simp [hw, isLabel, hc]

/-- A case label is at fault exactly if no switch takes it. -/
theorem hasFault_iff_not_takenBy {v w : Visit} (hv : v.position ≠ .item) (hw : w ∈ v.visits)
    (hc : w.construct = .case) :
    w.HasFault w.node .outsideConstruct ↔ ¬TakenBy v.visits w := by
  rw [takenBy_iff hv hw hc]
  constructor
  · intro h
    cases h with
    | misplacedCase _ hp => exact hp
    | misplacedClause hclause => rw [hc] at hclause; cases hclause
  · exact .misplacedCase hc

/-- A node of the kind of case labels that is rejected for its place is a case label. -/
theorem construct_of_hasFault_outsideConstruct {v : Visit} {n : Node}
    (h : v.HasFault n .outsideConstruct) (hn : n.kind = .case) :
    n = v.node ∧ v.construct = .case := by
  cases h with
  | misplacedCase hc _ => exact ⟨rfl, hc⟩
  | misplacedClause hc =>
    rw [construct_of_position (position_ne_lambda_iff.2 (by simp [hc])), hn] at hc
    cases hc

end Build.Visit

namespace Build

open Cst Statement Visit

/-- **A switch takes the case labels among its items**, also those in groups of conditional
compilation, **and every other case label is rejected.**

* Every label among items is taken by one switch, which it lies below.
* A case label is at fault exactly if no switch takes it. A body with such a label is rejected, and
  a body that is rejected for the place of a case label has one.
* Otherwise, all case labels are taken, and the switch statements of the body are the switches that
  are met, each with the number of its labels that have a value and with whether one has none. -/
theorem switch_takes_its_items (b : Node) :
    ((start b).visits.filter isLabel).Perm ((start b).visits.flatMap switchLabels) ∧
      (∀ s w : Visit, w ∈ s.switchLabels →
        s.construct = .switch ∧ w.construct = .case ∧ w.node ∈ s.node.nodesBelow) ∧
      (∀ w ∈ (start b).visits, w.construct = .case →
        (w.HasFault w.node .outsideConstruct ↔ ¬TakenBy (start b).visits w)) ∧
      (∀ w ∈ (start b).visits, w.construct = .case → ¬TakenBy (start b).visits w →
        ∃ e, ofBody b = .error e) ∧
      (∀ e, ofBody b = .error e → e.kind = .case → e.fault = .outsideConstruct →
        ∃ w ∈ (start b).visits, w.construct = .case ∧ ¬TakenBy (start b).visits w ∧
          e = errorAt w.node .outsideConstruct) ∧
      ∀ ss lambdas, ofBody b = .ok (ss, lambdas) →
        (∀ w ∈ (start b).visits, w.construct = .case → TakenBy (start b).visits w) ∧
          (switches ss).Perm ((start b).visits.filterMap Visit.labelled?) := by
  have hstart : (start b).position ≠ .item := by simp [start]
  have hfault : ∀ w ∈ (start b).visits, w.construct = .case →
      (w.HasFault w.node .outsideConstruct ↔ ¬TakenBy (start b).visits w) := fun w hw hc =>
    hasFault_iff_not_takenBy hstart hw hc
  refine ⟨filter_isLabel_perm hstart, fun s w h => node_mem_nodesBelow_of_mem_switchLabels h,
    hfault, fun w hw hc hnot => ?_, fun e he hkind houtside => ?_, fun ss lambdas hok => ⟨?_, ?_⟩⟩
  · rcases builds_ofBody b 0 with ⟨-, hnone⟩ | ⟨e, -, he⟩
    · exact absurd ⟨w, hw, ((hfault w hw hc).2 hnot).offends⟩ (hnone _)
    · exact ⟨e, he⟩
  · obtain ⟨w, hw, n, fault, h, rfl⟩ := faults_of_ofBody_eq_error he
    obtain rfl : fault = .outsideConstruct := houtside
    obtain ⟨rfl, hc⟩ := construct_of_hasFault_outsideConstruct h hkind
    exact ⟨w, hw, hc, (hfault w hw hc).1 h, rfl⟩
  · intro w hw hc
    by_contra hnot
    exact (ofBody_eq_ok hok).2.2 _ ⟨w, hw, ((hfault w hw hc).2 hnot).offends⟩
  · rw [(ofBody_eq_ok hok).1]
    exact switches_statements_perm (start b)

/-- A case label with a value, or without one, before statements. -/
def caseNode (value : Option String) (start : Nat) (statements : List Node) : Node :=
  ⟨.case, { start }, none, none, (value.map (Node.identifier .value)).toList ++ statements⟩

/-- A switch on a name, with given items. -/
def switchNode (items : List Node) : Node :=
  .bare .switch none [.identifier .condition "x", .bare .compound (some .body) items]

/-- The body of a switch with a case label, and a default and another case label in a group of
conditional compilation. -/
def groupedLabels : Node :=
  .bare .compound (some .body) [switchNode [
    caseNode (some "1") 10 [.bare .other none []],
    .bare .conditionalGroup none [
      .identifier .name "MACRO",
      caseNode none 20 [],
      caseNode (some "2") 30 [.bare .other none []]]]]

/-- The statement of `groupedLabels`. -/
def groupedSwitch : Statement :=
  .mk (.switch 2 true 0 [
    .mk .sequential {} 1 0,
    .mk (.block [.mk .sequential {} 1 0]) {} 1 0]) {} 0 0

/-- The switch of `groupedLabels` takes the labels in the group. -/
theorem switch_takes_its_items_grouped :
    ofBody groupedLabels = .ok ([groupedSwitch], 0) ∧
      (∀ w ∈ (start groupedLabels).visits, w.construct = .case →
        TakenBy (start groupedLabels).visits w) ∧
      [⟨{}, 2, true⟩].Perm ((start groupedLabels).visits.filterMap Visit.labelled?) := by
  have h : ofBody groupedLabels = .ok ([groupedSwitch], 0) := by with_unfolding_all rfl
  have hswitches : switches [groupedSwitch] = [⟨{}, 2, true⟩] := by cbv
  obtain ⟨-, -, -, -, -, hok⟩ := switch_takes_its_items groupedLabels
  obtain ⟨htaken, hperm⟩ := hok _ _ h
  rw [hswitches] at hperm
  exact ⟨h, htaken, hperm⟩

/-- The second label of `bracedLabels`. -/
def innerLabel : Node := caseNode (some "2") 39 [.bare .other none []]

/-- The switch of `bracedLabels`. -/
def bracedSwitch : Node :=
  switchNode [caseNode (some "1") 29 [.bare .compound none [innerLabel]]]

/-- The body of a switch with a case label, and another case label in braces behind it. -/
def bracedLabels : Node := .bare .compound (some .body) [bracedSwitch]

/-- A case label in braces in a switch is rejected, as if there were no switch around it. -/
theorem label_in_braces_is_rejected :
    ofBody bracedLabels = .error ⟨.case, 39, .outsideConstruct⟩ ∧
      innerLabel ∈ bracedSwitch.nodesBelow ∧ bracedSwitch ∈ bracedLabels.nodesBelow := by
  refine ⟨by with_unfolding_all rfl, ?_, ?_⟩
  · simp [innerLabel, bracedSwitch, switchNode, caseNode, Node.bare, Node.identifier,
      Node.nodesBelow, Node.nodes_eq]
  · exact Node.mem_nodesBelow_of_mem_children (by simp [bracedLabels, Node.bare])

end Build

end CodeMetrics
