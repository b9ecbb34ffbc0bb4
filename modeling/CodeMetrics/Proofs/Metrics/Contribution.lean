import CodeMetrics.Proofs.Metrics.Tally
import CodeMetrics.Proofs.Statement.Exact

/-!
# What each visited node contributes

The tally of a body is the sum, over all the nodes met while the body is built, of what each of
them contributes by itself (`Build.Visit.own`, `Build.Visit.tally_eq_sum`). Nothing is said here
about statements: `own` reads the visited node alone.

Two constructs are spread over several visits, and `Build.Visit.tally` splits them.

* A **ladder** is one statement, built from its first `if` with all its arms. Each further `if`
  contributes its arm and nothing else, so its share of the ladder is
  `Build.Visit.ladderTally`, which a recursion along the ladder takes apart.
* A **switch** counts the labels among its items, however deep in conditional compilation. Each
  label is handed back to the item it stands in (`Build.Visit.sum_tally_items`).
-/

namespace CodeMetrics.Build

open Cst Tally

/-! ### What a visit contributes -/

/-- What the labels of a switch count for. -/
def CaseLabels.tally (labels : CaseLabels) : Tally :=
  { decisions := labels.count, branches := labels.count }

theorem CaseLabels.tally_append (a b : CaseLabels) : (a.append b).tally = a.tally + b.tally := by
  ext <;> simp [CaseLabels.append, CaseLabels.tally]

namespace Visit

variable (config : Config)

/-- Whether the ladder ends after this `if` with a last alternative. -/
def endsInElse (v : Visit) : Bool := (alternative? v.node).any fun a => a.kind != .ifStatement

/-- What one arm of a ladder contributes. -/
def armTally (v : Visit) : Tally where
  decisions := 1 + when config.countLogicalOperators v.logical +
    when config.countConditionalExpressions v.conditionals
  maxNesting := v.depth + 1
  branches := 1

/-- What a last alternative contributes. -/
def elseTally (present : Bool) : Tally :=
  { decisions := when (config.countElseBranch && present) 1 }

/-- **What a visited node contributes by itself** to the tally of its body. -/
def own (v : Visit) : Tally :=
  match v.construct with
  | .lambda | .directive | .braces | .group | .labeled | .clause => 0
  | .ifElse =>
    { statements := if v.position = .rung then 0 else 1 } + v.armTally config +
      elseTally config v.endsInElse
  | .loop =>
    control v.depth (1 + when config.countLogicalOperators v.logical +
      when config.countConditionalExpressions (total Node.countConditionals v.headers)) 0 1
  | .switch =>
    let labels := joinLabels (v.items.map fun w => itemLabels w.node)
    control v.depth (when (config.countDefaultLabel && labels.hasDefault) 1 +
      when config.countLogicalOperators v.logical +
      when config.countConditionalExpressions v.conditionals) 0 0
  | .tryCatch => control v.depth v.handlers.length v.handlers.length 0
  | .case => (caseLabel v.node).tally
  | .plain =>
    { decisions := when config.countConditionalExpressions v.node.countConditionals,
      statements := 1 }

/-- The tally of the statements of a visit. -/
def statementTally (v : Visit) : Tally := ofStatements config v.depth v.statements

/-- The tally of the ladder that a visit continues, without the statement that it is. -/
def ladderTally (v : Visit) : Tally :=
  (v.rungs.map fun r => ofStatements config v.depth (r.conditionLambdas.flatMap statements)).sum +
    (v.rungs.map (armTally config)).sum + elseTally config v.otherwise?.isSome +
    (v.rungs.map fun r =>
      ofStatements config (v.depth + 1) ((r.enclosed r.node .consequence).flatMap statements)).sum +
    ofStatements config (v.depth + 1) (v.otherwise?.toList.flatMap statements)

/-- What a visit adds to a tally: its statements, and the labels it brings to a switch. -/
def tally (v : Visit) : Tally :=
  match v.position, v.construct with
  | .rung, .ifElse => v.ladderTally config
  | .item, _ => v.statementTally config + (itemLabels v.node).tally
  | _, _ => v.statementTally config

theorem sum_tally {ws : List Visit} {d : Nat}
    (h : ∀ w ∈ ws, w.depth = d ∧ w.position ≠ .rung ∧ w.position ≠ .item) :
    (ws.map (tally config)).sum = ofStatements config d (ws.flatMap statements) := by
  rw [ofStatements_flatMap]
  refine congrArg List.sum (List.map_congr_left fun w hw => ?_)
  obtain ⟨rfl, hr, hi⟩ := h w hw
  unfold tally
  cases hp : w.position <;> simp_all [statementTally]

theorem sum_tally_items (ws : List Visit) {d : Nat}
    (h : ∀ w ∈ ws, w.depth = d ∧ w.position = .item) :
    (ws.map (tally config)).sum = ofStatements config d (ws.flatMap statements) +
      (joinLabels (ws.map fun w => itemLabels w.node)).tally := by
  induction ws with
  | nil => rfl
  | cons w ws ih =>
    obtain ⟨rfl, hp⟩ := h w List.mem_cons_self
    have hw : w.tally config = w.statementTally config + (itemLabels w.node).tally := by
      simp [tally, hp]
    rw [List.map_cons, List.sum_cons, ih fun u hu => h u (List.mem_cons_of_mem w hu), hw,
      List.flatMap_cons, ofStatements_append]
    simp only [joinLabels, List.map_cons, List.foldr_cons, CaseLabels.tally_append, statementTally]
    abel

/-! ### Ladders -/

theorem sum_armTally (rs : List Visit) {d : Nat} (h : ∀ r ∈ rs, r.depth = d) (hne : rs ≠ []) :
    (rs.map (armTally config)).sum =
      { decisions := rs.length + when config.countLogicalOperators (total logical rs) +
          when config.countConditionalExpressions (total conditionals rs)
        maxNesting := d + 1
        branches := rs.length } := by
  induction rs with
  | nil => exact absurd rfl hne
  | cons r rs ih =>
    have hr : r.depth = d := h r List.mem_cons_self
    by_cases hrs : rs = []
    · subst hrs
      ext <;> simp [armTally, hr]
    · rw [List.map_cons, List.sum_cons, ih (fun u hu => h u (List.mem_cons_of_mem r hu)) hrs]
      ext <;> simp [armTally, hr, when_add] <;> omega

@[simp] theorem elseTally_false : elseTally config false = 0 := by
  ext <;> simp [elseTally, when]

theorem ofEnd?_beside_rung (v : Visit) (m : Node) (e : LadderEnd) :
    (v.beside .rung m).ofEnd? e = v.ofEnd? e := by
  cases e <;> rfl

theorem sum_tally_conditionLambdas (v : Visit) :
    (v.conditionLambdas.map (tally config)).sum =
      ofStatements config v.depth (v.conditionLambdas.flatMap statements) := by
  refine sum_tally config fun w hw => ?_
  obtain ⟨c, -, hw⟩ := List.mem_flatMap.1 hw
  obtain ⟨l, -, rfl⟩ := List.mem_map.1 hw
  simp [beside]

theorem sum_tally_enclosed (v : Visit) (n : Node) (role : Role) :
    ((v.enclosed n role).map (tally config)).sum =
      ofStatements config (v.depth + 1) ((v.enclosed n role).flatMap statements) := by
  refine sum_tally config fun w hw => ?_
  obtain ⟨c, -, rfl⟩ := List.mem_map.1 hw
  simp [below]

/-- One arm of a ladder, and what follows it. -/
theorem ladderTally_eq {v : Visit} (hp : v.position = .rung) :
    v.ladderTally config = v.armTally config + elseTally config v.endsInElse +
      ((armParts v).map (tally config)).sum + ((followers v).map (tally config)).sum := by
  have ha := alternative?_of_ladderNext v.node
  rw [armParts, List.map_append, List.sum_append, sum_tally_conditionLambdas,
    sum_tally_enclosed]
  cases hn : ladderNext v.node with
  | next m =>
    -- what is left of the ladder is the ladder of the next `if`
    rw [hn] at ha
    have he : v.endsInElse = false := by simp [endsInElse, ha]
    have hr : (v.beside .rung m).rungs = (m :: (ladder m).1).map (v.beside .rung) := rfl
    have ht : (v.beside .rung m).tally config = (v.beside .rung m).ladderTally config := by
      simp [tally, beside, construct, ha.2, Construct.ofKind]
    rw [followers, hn, he, elseTally_false]
    simp only [List.map_cons, List.map_nil, List.sum_cons, List.sum_nil, ht, ladderTally, hr,
      rungs_eq hp, otherwise?, ladder_of_next hn, ofEnd?_beside_rung, beside_depth, beside_node]
    abel
  | done e =>
    rw [hn] at ha
    have he : v.endsInElse = (v.ofEnd? e).isSome := by
      cases e <;> simp_all [endsInElse, ofEnd?]
    have hend : ((v.ofEnd? e).toList.map (tally config)).sum =
        ofStatements config (v.depth + 1) ((v.ofEnd? e).toList.flatMap statements) := by
      refine sum_tally config fun w hw => ?_
      cases e <;> simp_all [ofEnd?, below]
    rw [followers, hn, he, hend]
    simp only [ladderTally, rungs_eq hp, otherwise?, ladder_of_done hn, List.map_cons,
      List.map_nil, List.sum_cons, List.sum_nil]
    abel

/-- A ladder is one statement, whatever the number of its arms. -/
theorem statementTally_of_ifElse {v : Visit} (hc : v.construct = .ifElse) :
    v.statementTally config = { statements := 1 } + v.ladderTally config := by
  have hsum := sum_armTally config v.rungs (d := v.depth)
    (fun r hr => by obtain ⟨m, -, rfl⟩ := List.mem_map.1 hr; rfl) (by simp [rungs])
  have hlambdas : ofStatements config v.depth ((v.rungs.map (armWith statements)).flatMap
      Arm.lambdas) = (v.rungs.map fun r =>
        ofStatements config v.depth (r.conditionLambdas.flatMap statements)).sum := by
    rw [ofStatements_flatMap, List.map_map]
    rfl
  have harms : ofArms config (v.depth + 1) ((v.rungs.map (armWith statements)).map Arm.arm) =
      (v.rungs.map fun r => ofStatements config (v.depth + 1)
        ((r.enclosed r.node .consequence).flatMap statements)).sum := by
    rw [ofArms_eq_sum, List.map_map, List.map_map]
    rfl
  have hother : ofOtherwise config (v.depth + 1) (v.otherwise?.map statements) =
      ofStatements config (v.depth + 1) (v.otherwise?.toList.flatMap statements) := by
    cases v.otherwise? <;> simp [ofOtherwise_eq_sum]
  have hops : armOperators ((v.rungs.map (armWith statements)).map Arm.arm) =
      total logical v.rungs := by
    rw [armOperators, total_map, total_map]
    rfl
  have hconds : total Arm.conditionals (v.rungs.map (armWith statements)) =
      total conditionals v.rungs := by
    rw [total_map]
    rfl
  rw [statementTally, statements_eq]
  simp only [statementsWith, hc, ladderTally, hsum, ofStatements_append, ofStatements_cons,
    ofStatements_nil, ofStatement, ofKind, hlambdas, harms, hother, hops, hconds, append_eq_add,
    List.length_map, Option.isSome_map]
  ext <;> simp [Tally.control, elseTally] <;> omega

/-! ### One visit -/

theorem tally_eq_statementTally {v : Visit} (hcase : v.construct ≠ .case)
    (hgroup : v.construct ≠ .group) (hif : v.construct ≠ .ifElse ∨ v.position ≠ .rung) :
    v.tally config = v.statementTally config := by
  have hl : v.position = .item → (itemLabels v.node).tally = 0 := fun hp => by
    rw [construct_of_position (by simp [hp])] at hcase hgroup
    have hk : v.node.kind ≠ .case ∧ v.node.kind ≠ .conditionalGroup := by
      constructor <;> intro hk <;> simp_all [Construct.ofKind]
    rw [itemLabels_eq, if_neg hk.1, if_neg hk.2]
    rfl
  unfold tally
  split
  · next hp hc => simp_all
  · next hp => rw [hl hp, add_zero]
  · rfl

theorem tally_eq_ofStatements {v : Visit} (hc : v.construct ∉ [.case, .group, .ifElse]) :
    v.tally config = ofStatements config v.depth (statementsWith statements v) := by
  simp only [List.mem_cons, List.not_mem_nil, or_false, not_or] at hc
  rw [tally_eq_statementTally config hc.1 hc.2.1 (Or.inl hc.2.2), statementTally, statements_eq]

/-- A block counts for what it holds. -/
theorem ofStatements_block (n : Node) (d : Nat) (ss : List Statement) :
    ofStatements config d [block n d ss] = ofStatements config d ss := by
  simp only [block, ofStatements_cons, ofStatements_nil, ofStatement, ofKind, when_zero,
    append_eq_add, add_zero]
  exact zero_add _

theorem sum_tally_beside (v : Visit) {p : Position} (hr : p ≠ .rung) (hi : p ≠ .item)
    (ns : List Node) : ((ns.map (v.beside p)).map (tally config)).sum =
      ofStatements config v.depth ((ns.map (v.beside p)).flatMap statements) := by
  refine sum_tally config fun w hw => ?_
  obtain ⟨n, -, rfl⟩ := List.mem_map.1 hw
  exact ⟨rfl, hr, hi⟩

theorem tally_of_item {v : Visit} (hp : v.position = .item) :
    v.tally config = v.statementTally config + (itemLabels v.node).tally := by
  unfold tally
  split <;> simp_all

theorem tally_of_group {v : Visit} (hc : v.construct = .group) :
    v.tally config = (v.next.map (tally config)).sum := by
  have hs : v.statementTally config = ofStatements config v.depth (v.next.flatMap statements) := by
    rw [statementTally, statements_eq]
    simp only [statementsWith, hc, ofStatements_block]
  have hn : v.next = (groupItems v.node).map (v.beside v.groupPosition) := by simp [next, hc]
  by_cases hp : v.position = .item
  -- among the items of a switch, the labels in the group go on to the switch
  · have hk : v.node.kind = .conditionalGroup := by
      rw [construct_of_position (by simp [hp])] at hc
      cases hk : v.node.kind <;> simp_all [Construct.ofKind]
    have hitems := sum_tally_items config v.next (d := v.depth) fun w hw => by
      rw [hn] at hw
      obtain ⟨n, -, rfl⟩ := List.mem_map.1 hw
      simp [groupPosition, hp, beside]
    have hl : joinLabels (v.next.map fun w => itemLabels w.node) = itemLabels v.node := by
      rw [itemLabels_eq v.node, if_neg (by simp [hk]), if_pos hk, hn, List.map_map]
      rfl
    rw [tally_of_item config hp, hs, hitems, hl]
  · have hg : v.groupPosition = .statement := if_neg hp
    have ht : v.tally config = v.statementTally config := by
      unfold tally
      split <;> simp_all
    rw [ht, hs, hn, hg, sum_tally_beside config v (by simp) (by simp)]

theorem tally_of_ifElse {v : Visit} (hc : v.construct = .ifElse) :
    v.tally config = v.own config + (v.next.map (tally config)).sum := by
  rw [next_of_ifElse hc, List.map_append, List.sum_append]
  by_cases hp : v.position = .rung
  · have ht : v.tally config = v.ladderTally config := by simp [tally, hp, hc]
    have ho : v.own config = v.armTally config + elseTally config v.endsInElse := by
      simp only [own, hc, hp, if_true]
      exact congrArg (· + _) (zero_add _)
    rw [ht, ladderTally_eq config hp, ho, add_assoc]
  · have hl : v.ladderTally config = v.armTally config + elseTally config v.endsInElse +
        ((armParts v).map (tally config)).sum + ((followers v).map (tally config)).sum :=
      ladderTally_eq config (v := v.beside .rung v.node) rfl
    have ho : v.own config = { statements := 1 } + v.armTally config +
        elseTally config v.endsInElse := by
      simp [own, hc, hp]
    rw [tally_eq_statementTally config (by simp [hc]) (by simp [hc]) (Or.inr hp),
      statementTally_of_ifElse config hc, hl, ho]
    abel

theorem sum_tally_headers (v : Visit) :
    ((v.headers.flatMap v.lambdasIn).map (tally config)).sum =
      ofStatements config v.depth ((v.headers.flatMap v.lambdasIn).flatMap statements) := by
  refine sum_tally config fun w hw => ?_
  obtain ⟨c, -, hw⟩ := List.mem_flatMap.1 hw
  obtain ⟨l, -, rfl⟩ := List.mem_map.1 hw
  simp [beside]

theorem tally_of_loop {v : Visit} (hc : v.construct = .loop) :
    v.tally config = v.own config + (v.next.map (tally config)).sum := by
  rw [tally_eq_ofStatements config (by simp [hc])]
  simp only [statementsWith, next, own, hc, List.map_append, List.sum_append,
    sum_tally_headers, sum_tally_enclosed, ofStatements_append, ofStatements_cons,
    ofStatements_nil, ofStatement, ofKind, append_eq_add]
  ext <;> simp [Tally.control] <;> omega

theorem tally_of_switch {v : Visit} (hc : v.construct = .switch) :
    v.tally config = v.own config + (v.next.map (tally config)).sum := by
  have hitems := sum_tally_items config v.items (d := v.depth + 1) fun w hw => by
    obtain ⟨b, -, hw⟩ := List.mem_flatMap.1 hw
    obtain ⟨n, -, rfl⟩ := List.mem_map.1 hw
    simp [below]
  rw [tally_eq_ofStatements config (by simp [hc])]
  simp only [statementsWith, next, own, hc, List.map_append, List.sum_append,
    sum_tally_conditionLambdas, hitems, ofStatements_append, ofStatements_cons,
    ofStatements_nil, ofStatement, ofKind, append_eq_add]
  ext <;> simp [Tally.control, CaseLabels.tally] <;> omega

theorem tally_of_tryCatch {v : Visit} (hc : v.construct = .tryCatch) :
    v.tally config = v.own config + (v.next.map (tally config)).sum := by
  have hh : (v.handlers.flatten.map (tally config)).sum =
      ofHandlers config (v.depth + 1) (v.handlers.map fun ws => ws.flatMap statements) := by
    rw [ofHandlers_eq_sum, List.map_flatten, List.sum_flatten, List.map_map, List.map_map]
    refine congrArg List.sum (List.map_congr_left fun ws hws => ?_)
    obtain ⟨c, -, rfl⟩ := List.mem_map.1 hws
    exact sum_tally_enclosed config v c .body
  rw [tally_eq_ofStatements config (by simp [hc])]
  simp only [statementsWith, next, own, hc, List.map_append, List.sum_append, hh,
    sum_tally_enclosed, ofStatements_cons, ofStatements_nil, ofStatement, ofKind, append_eq_add]
  ext <;> simp [Tally.control, Nat.add_assoc]

theorem tally_of_case {v : Visit} (hc : v.construct = .case) (hp : v.position = .item) :
    v.tally config = v.own config + (v.next.map (tally config)).sum := by
  have hk : v.node.kind = .case := by
    rw [construct_of_position (by simp [hp])] at hc
    cases hk : v.node.kind <;> simp_all [Construct.ofKind]
  rw [tally_of_item config hp, statementTally, statements_eq, itemLabels_eq, if_pos hk]
  simp only [statementsWith, next, own, hc, sum_tally_beside config v (p := .statement) (by simp)
    (by simp)]
  exact add_comm _ _

/-- **One visit counts for itself and for what it leads to.** -/
theorem tally_eq_own_add {v : Visit} (hv : ∀ e, ¬v.Offends e) :
    v.tally config = v.own config + (v.next.map (tally config)).sum := by
  cases hc : v.construct
  case lambda =>
    rw [tally_eq_ofStatements config (by simp [hc])]
    simp only [statementsWith, next, own, hc, zero_add, ofStatements_block]
    exact (sum_tally_beside config v (by simp) (by simp) _).symm
  case directive | clause =>
    rw [tally_eq_ofStatements config (by simp [hc])]
    simp [statementsWith, next, own, hc]
  case braces =>
    rw [tally_eq_ofStatements config (by simp [hc])]
    have hs := sum_tally_beside config v (p := .statement) (by simp) (by simp) v.node.children
    simp only [statementsWith, next, own, hc, zero_add, hs]
    split
    · rfl
    · rw [ofStatements_block]
  case group =>
    rw [tally_of_group config hc, own, hc]
    exact (zero_add _).symm
  case labeled =>
    rw [tally_eq_ofStatements config (by simp [hc])]
    simp only [statementsWith, next, own, hc, zero_add]
    exact (sum_tally_beside config v (by simp) (by simp) _).symm
  case ifElse => exact tally_of_ifElse config hc
  case loop => exact tally_of_loop config hc
  case switch => exact tally_of_switch config hc
  case tryCatch => exact tally_of_tryCatch config hc
  case case =>
    refine tally_of_case config hc ?_
    by_contra hp
    exact hv _ (HasFault.misplacedCase hc hp).offends
  case plain =>
    rw [tally_eq_ofStatements config (by simp [hc])]
    simp only [statementsWith, next, own, hc, lambdasIn,
      sum_tally_beside config v (p := .lambda) (by simp) (by simp), ofStatements_cons]
    rfl

/-- **The tally of the statements of a visit is what all its visits contribute**, if none of them
offends. -/
theorem tally_eq_sum {v : Visit} (h : ∀ e, ¬Faults v.visits e) :
    v.tally config = (v.visits.map (own config)).sum := by
  induction v using visits.induct with
  | case1 v ih =>
    rw [visits_eq] at h ⊢
    have hv : ∀ e, ¬v.Offends e := fun e he => h e ((faults_cons ..).2 (Or.inl he))
    have hnext : (v.next.map (tally config)).sum =
        ((v.next.flatMap visits).map (own config)).sum := by
      rw [List.map_flatMap, List.flatMap, List.sum_flatten, List.map_map]
      refine congrArg List.sum (List.map_congr_left fun w hw => ?_)
      refine ih ⟨w, hw⟩ ?_
      rintro e ⟨u, hu, he⟩
      exact h e ⟨u, List.mem_cons_of_mem v (List.mem_flatMap.2 ⟨w, hw, hu⟩), he⟩
    rw [tally_eq_own_add config hv, hnext, List.map_cons, List.sum_cons]

end Visit

end CodeMetrics.Build
