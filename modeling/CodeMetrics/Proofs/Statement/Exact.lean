import CodeMetrics.Proofs.Statement.OfVisit
import CodeMetrics.Proofs.Statement.Outcome

/-!
# Building is exact

Building a body goes over the visits of the body: it succeeds exactly when none of them offends,
then with the statements of the visits and as many lambdas as there are among them, and otherwise it
fails with an error of one that offends (`Build.builds_ofBody`).

The proof goes up the levels. `Build.Level.Exact` says of one level what is to be proved, for the
nodes that have a given number of statements open around them; what a level builds from an exact one
below it is exact, construct by construct, and the lowest level rejects what the limit on nesting
rejects.
-/

namespace CodeMetrics.Build

open Cst

namespace Visit

/-- Whether the node is built as a statement of its own, and not as the braces of a body or as the
label or group of a switch. -/
def IsStatement (v : Visit) : Prop :=
  match v.position with
  | .statement => True
  | .body => v.node.kind ≠ .compound
  | .item => v.node.kind ≠ .case ∧ v.node.kind ≠ .conditionalGroup
  | .rung | .lambda => False

namespace IsStatement

variable {v : Visit}

theorem opens (h : v.IsStatement) : v.opens = true := by
  rcases v with ⟨_ | _ | _ | _ | _, n, d, o⟩ <;> simp_all [IsStatement, Visit.opens]

theorem inside_eq (h : v.IsStatement) : v.inside = v.opened + 1 := by
  rw [inside, if_pos h.opens]

theorem construct_eq (h : v.IsStatement) : v.construct = .ofKind v.node.kind := by
  rcases v with ⟨_ | _ | _ | _ | _, n, d, o⟩ <;> simp_all [IsStatement, construct]

theorem not_body (h : v.IsStatement) (hc : v.construct = .braces) : v.position ≠ .body := by
  intro hp
  rw [h.construct_eq] at hc
  cases hk : v.node.kind <;> simp_all [IsStatement, Construct.ofKind]

theorem not_item (h : v.IsStatement) (hc : v.construct = .case ∨ v.construct = .group) :
    v.position ≠ .item := by
  intro hp
  rw [h.construct_eq] at hc
  cases hk : v.node.kind <;> simp_all [IsStatement, Construct.ofKind]

theorem not_lambda (h : v.IsStatement) : v.position ≠ .lambda := by
  rcases v with ⟨_ | _ | _ | _ | _, n, d, o⟩ <;> simp_all [IsStatement]

end IsStatement

end Visit

open Visit

/-- What a level builds for a node is what the visits of the node say. -/
structure Level.Exact (inner : Level) (opened : Nat) : Prop where
  statement {v : Visit} (ho : v.opened = opened) (hv : v.IsStatement) :
    Builds (inner.statement v.node v.depth) v.visits v.statements
  switchGroup {v : Visit} (ho : v.opened = opened) (hp : v.position = .item)
    (hk : v.node.kind = .conditionalGroup) :
    Builds (inner.switchGroup v.node v.depth) v.visits
      (itemLabels v.node, v.next.flatMap statements)

theorem require_some {n c : Node} {role : Role} {fault : NormalizationFault}
    (h : n.childWithRole? role = some c) : require n role fault = pure c := by
  rw [require, h]

theorem require_none {n : Node} {role : Role} {fault : NormalizationFault}
    (h : n.childWithRole? role = none) : require n role fault = fail n fault := by
  rw [require, h]

section

variable {inner : Level} {v : Visit}

theorem builds_sequence (h : inner.Exact v.inside) (ns : List Node) :
    Builds (sequence inner v.depth ns) ((ns.map (v.beside .statement)).flatMap visits)
      ((ns.map (v.beside .statement)).flatMap statements) := by
  induction ns with
  | nil => exact Builds.pure []
  | cons n ns ih =>
    simp only [List.map_cons, List.flatMap_cons]
    exact (h.statement (v := v.beside .statement n) rfl trivial).bind (ih.map _)

theorem builds_body (h : inner.Exact v.opened) (hp : v.position = .body) :
    Builds (body inner v.node v.depth) v.visits v.statements := by
  rw [body]
  split
  -- the braces of a body take up no level, so what they hold is built on this one
  · next hk =>
    have hc : v.construct = .braces := by simp [construct, hp, hk, Construct.ofKind]
    have hi : v.inside = v.opened := by simp [inside, opens, hp, hk]
    have hn : v.next = v.node.children.map (v.beside .statement) := by simp [next, hc]
    rw [visits_eq, statements_eq]
    simp only [statementsWith, hc, hp, if_true, hn]
    exact (builds_sequence (hi ▸ h) v.node.children).cons
      (not_offends_of_harmless (by simp [hc, harmless]) (by simp [opens, hp, hk])) (by simp [hp])
  · next hk => exact h.statement rfl (by simpa [IsStatement, hp] using hk)

theorem builds_count (hp : v.position = .lambda) : Builds (modify (· + 1)) [v] () := by
  intro s
  have hnone := not_offends_of_harmless (v := v) (by simp [construct, hp, harmless])
    (by simp [opens, hp])
  refine Or.inl ⟨?_, fun e => by simp [hnone]⟩
  simp only [lambdaCount_cons, isLambda, hp]
  rfl

/-- The body of a lambda, if it has one. -/
theorem builds_lambdaBody (h : inner.Exact v.opened) (hp : v.position = .lambda) :
    Builds (match v.node.childWithRole? .body with
      | some b => body inner b v.depth
      | none => pure []) (v.next.flatMap visits) (v.next.flatMap statements) := by
  have hc : v.construct = .lambda := by simp [construct, hp]
  have hi : v.inside = v.opened := by simp [inside, opens, hp]
  cases hb : v.node.childWithRole? .body with
  | none => simpa [next, hc, hb] using Builds.pure []
  | some b =>
    have h' : inner.Exact (v.beside .body b).opened := by rwa [beside_opened, hi]
    simpa [next, hc, hb] using builds_body h' rfl

theorem builds_lambdaBlocks (h : inner.Exact v.inside) (ls : List Node) :
    Builds (lambdaBlocks inner v.depth ls) ((ls.map (v.beside .lambda)).flatMap visits)
      ((ls.map (v.beside .lambda)).flatMap statements) := by
  induction ls with
  | nil => exact Builds.pure []
  | cons l ls ih =>
    have hl : (v.beside .lambda l).statements =
        [block l v.depth ((v.beside .lambda l).next.flatMap statements)] := by
      rw [statements_eq, statementsWith]
      simp [construct, beside]
    rw [List.map_cons, List.flatMap_cons, List.flatMap_cons, hl, visits_eq]
    -- a lambda is counted before its body is built, as it is visited before it
    have hcount : Builds (modify (· + 1)) [v.beside .lambda l] () := builds_count rfl
    have hbody := builds_lambdaBody (v := v.beside .lambda l) h rfl
    rw [lambdaBlocks]
    cases hb : l.childWithRole? .body <;> rw [beside_node, hb] at hbody <;>
      exact hcount.bind (hbody.bind (ih.map _))

theorem builds_mergeLambdas (h : inner.Exact v.inside) (n : Node) :
    Builds (mergeLambdas inner n v.depth) ((v.lambdasIn n).flatMap visits)
      ((v.lambdasIn n).flatMap statements) :=
  builds_lambdaBlocks h n.lambdasBelow

theorem builds_conditionLambdas (h : inner.Exact v.inside) :
    Builds (match v.node.childWithRole? .condition with
      | some c => mergeLambdas inner c v.depth
      | none => pure []) (v.conditionLambdas.flatMap visits)
      (v.conditionLambdas.flatMap statements) := by
  cases hb : v.node.childWithRole? .condition with
  | none => simpa [conditionLambdas, hb] using Builds.pure []
  | some b => simpa [conditionLambdas, hb] using builds_mergeLambdas h b

theorem builds_headerLambdas (h : inner.Exact v.inside) (hs : List Node) :
    Builds (headerLambdas inner v.depth hs) ((hs.flatMap v.lambdasIn).flatMap visits)
      ((hs.flatMap v.lambdasIn).flatMap statements) := by
  induction hs with
  | nil => exact Builds.pure []
  | cons n hs ih =>
    simp only [List.flatMap_cons, List.flatMap_append]
    exact (builds_mergeLambdas h n).bind (ih.map _)

/-- The lambdas of a condition, before what is built after them. -/
theorem outcome_conditionLambdas_bind {β : Type} {F : NormalizationError → Prop} {b : β} {j : Nat}
    (h : inner.Exact v.inside) {k : List Statement → Build β}
    (hk : Outcome (k (v.conditionLambdas.flatMap statements)) F b j) :
    Outcome (match v.node.childWithRole? .condition with
      | some c => mergeLambdas inner c v.depth >>= k
      | none => pure [] >>= k)
      (fun e => Faults (v.conditionLambdas.flatMap visits) e ∨ F e) b
      (lambdaCount (v.conditionLambdas.flatMap visits) + j) := by
  have hl := builds_conditionLambdas h
  cases hc : v.node.childWithRole? .condition <;> rw [hc] at hl <;> exact Outcome.bind hl hk

/-! ### Ladders -/

/-- What one arm of a ladder leads to, the rest of the ladder left aside. -/
def armParts (v : Visit) : List Visit := v.conditionLambdas ++ v.enclosed v.node .consequence

/-- A child that must be there, built as a body. -/
theorem outcome_require_body (h : inner.Exact v.inside) (n : Node) (role : Role)
    (fault : NormalizationFault) :
    Outcome (do let c ← require n role fault; body inner c (v.depth + 1))
      (fun e => (n.childWithRole? role = none ∧ e = errorAt n fault) ∨
        Faults ((v.enclosed n role).flatMap visits) e)
      ((v.enclosed n role).flatMap statements)
      (lambdaCount ((v.enclosed n role).flatMap visits)) := by
  cases hb : n.childWithRole? role with
  | none =>
    rw [require_none hb]
    exact Outcome.fail_bind (by simp) _ _ _
  | some b =>
    have hbody : Builds (body inner b (v.depth + 1)) (visits (v.below .body b))
        (statements (v.below .body b)) := builds_body (v := v.below .body b) h rfl
    rw [require_some hb, pure_bind]
    exact Outcome.congr hbody (by simp [enclosed, hb]) (by simp [enclosed, hb])
      (by simp [enclosed, hb])

theorem outcome_buildArm (h : inner.Exact v.inside) :
    Outcome (buildArm inner v.node v.depth)
      (fun e =>
        (v.node.childWithRole? .consequence = none ∧ e = errorAt v.node .missingConsequence) ∨
          Faults ((armParts v).flatMap visits) e)
      (armWith statements v) (lambdaCount ((armParts v).flatMap visits)) := by
  have hb := outcome_require_body h v.node .consequence .missingConsequence
  have harm := outcome_conditionLambdas_bind h (hb.map fun s =>
    (⟨v.conditionals, v.conditionLambdas.flatMap statements, .mk v.logical s⟩ : Arm))
    (k := fun lambdas => do
      let s ← (do
        let c ← require v.node .consequence .missingConsequence
        body inner c (v.depth + 1))
      return (⟨v.conditionals, lambdas, .mk v.logical s⟩ : Arm))
  simp only [bind_assoc] at harm
  refine Outcome.congr harm (fun e => ?_) rfl ?_
  · simp only [armParts, List.flatMap_append, faults_append]
    exact or_left_comm
  · simp [armParts]

/-- The arms of a ladder and its end, one after the other. -/
def buildLadder (inner : Level) (n : Node) (depth : Nat) :
    Build (List Arm × Option (List Statement)) := do
  let arms ← buildArms inner depth (n :: (ladder n).1)
  let otherwise ← buildEnd inner depth (ladder n).2
  return (arms, otherwise)

theorem buildLadder_of_next {n m : Node} {d : Nat} (hn : ladderNext n = .next m) :
    buildLadder inner n d = do
      let first ← buildArm inner n d
      let rest ← buildLadder inner m d
      return (first :: rest.1, rest.2) := by
  simp [buildLadder, ladder_of_next hn, buildArms]

theorem buildLadder_of_done {n : Node} {d : Nat} {e : LadderEnd} (hn : ladderNext n = .done e) :
    buildLadder inner n d = do
      let first ← buildArm inner n d
      let otherwise ← buildEnd inner d e
      return ([first], otherwise) := by
  simp [buildLadder, ladder_of_done hn, buildArms]

/-- What continues or ends a ladder after one of its arms. -/
def followers (v : Visit) : List Visit :=
  match ladderNext v.node with
  | .next m => [v.beside .rung m]
  | .done e => (v.ofEnd? e).toList

theorem map_visitAlternative (v : Visit) :
    (alternative? v.node).toList.map v.visitAlternative = followers v := by
  have h := alternative?_of_ladderNext v.node
  unfold followers
  generalize ladderNext v.node = l at h ⊢
  rcases l with (_ | a | c) | m <;> simp_all [visitAlternative, ofEnd?]

theorem next_of_ifElse (hc : v.construct = .ifElse) : v.next = armParts v ++ followers v := by
  simp [next, hc, armParts, map_visitAlternative]

theorem offends_rung_iff (hp : v.position = .rung) (hk : v.node.kind = .ifStatement)
    (e : NormalizationError) : v.Offends e ↔
      (v.node.childWithRole? .consequence = none ∧ e = errorAt v.node .missingConsequence) ∨
      ∃ c, ladderNext v.node = .done (.empty c) ∧ e = errorAt c .elseWithoutStatement := by
  have hc : v.construct = .ifElse := by simp [construct, hp, hk, Construct.ofKind]
  have hn := alternative?_of_ladderNext v.node
  constructor
  · rintro ⟨_, _, ⟨-, h⟩ | ⟨-, ha, hk, h⟩ | _ | _ | _ | _ | _ | _ | _, rfl⟩ <;> simp_all [opens]
    simp [ladderNext, ha, hk, h]
  · rintro (⟨h, rfl⟩ | ⟨c, h, rfl⟩)
    · exact (HasFault.missingConsequence hc h).offends
    · rw [h] at hn
      obtain ⟨-, ha, hk, h⟩ := hn
      exact (HasFault.elseWithoutStatement hc ha hk h).offends

theorem beside_rung_self (hp : v.position = .rung) : v.beside .rung v.node = v := by
  obtain ⟨p, n, d, o⟩ := v
  obtain rfl : p = .rung := hp
  rfl

theorem outcome_buildEnd (h : inner.Exact v.inside) (e : LadderEnd) :
    Outcome (buildEnd inner v.depth e)
      (fun x => (∃ c, e = .empty c ∧ x = errorAt c .elseWithoutStatement) ∨
        Faults ((v.ofEnd? e).toList.flatMap visits) x)
      ((v.ofEnd? e).map statements) (lambdaCount ((v.ofEnd? e).toList.flatMap visits)) := by
  cases e with
  | «open» => exact (Outcome.pure none).congr (by simp [ofEnd?]) rfl rfl
  | otherwise n =>
    have hb := builds_body (v := v.below .body n) h rfl
    rw [buildEnd, map_eq_pure_bind]
    exact (hb.map some).congr (by simp [ofEnd?]) rfl (by simp [ofEnd?])
  | empty c => exact Outcome.fail (Or.inl ⟨c, rfl, rfl⟩) _ _

theorem rungs_eq (hp : v.position = .rung) :
    v.rungs = v :: (ladder v.node).1.map (v.beside .rung) := by
  rw [rungs, List.map_cons, beside_rung_self hp]

theorem builds_buildLadder (h : inner.Exact v.opened) (hp : v.position = .rung)
    (hk : v.node.kind = .ifStatement) :
    Builds (buildLadder inner v.node v.depth) v.visits
      (v.rungs.map (armWith statements), v.otherwise?.map statements) := by
  -- along the ladder; the visit changes with the member, its depth and its level do not
  induction hn : v.node using ladder.induct generalizing v with
  | case1 n e he =>
    subst hn
    have hc : v.construct = .ifElse := by simp [construct, hp, hk, Construct.ofKind]
    have hi : v.inside = v.opened := by simp [inside, opens, hp]
    have harm := outcome_buildArm (hi ▸ h)
    have hend := outcome_buildEnd (hi ▸ h) e
    rw [buildLadder_of_done he, visits_eq, next_of_ifElse hc, rungs_eq hp, otherwise?,
      ladder_of_done he, followers, he]
    refine Outcome.congr (harm.bind (f := fun first => do
      let otherwise ← buildEnd inner v.depth e
      return ([first], otherwise)) (hend.map _)) (fun x => ?_) rfl ?_
    · simp only [faults_cons, offends_rung_iff hp hk, he, List.flatMap_append, faults_append,
        LadderNext.done.injEq]
      exact or_or_or_comm
    · simp [lambdaCount_cons, isLambda, hp]
  | case2 n m he members e _ ih =>
    subst hn
    have hc : v.construct = .ifElse := by simp [construct, hp, hk, Construct.ofKind]
    have hi : v.inside = v.opened := by simp [inside, opens, hp]
    have harm := outcome_buildArm (hi ▸ h)
    have hm := alternative?_of_ladderNext v.node
    rw [he] at hm
    have hrest := ih (v := v.beside .rung m) (by rwa [beside_opened, hi]) rfl hm.2 rfl
    rw [buildLadder_of_next he, visits_eq, next_of_ifElse hc, rungs_eq hp, otherwise?,
      ladder_of_next he, followers, he]
    refine Outcome.congr (harm.bind (f := fun first => do
      let rest ← buildLadder inner m v.depth
      return (first :: rest.1, rest.2)) (hrest.map _)) (fun x => ?_) rfl ?_
    · simp only [faults_cons, offends_rung_iff hp hk, he, List.flatMap_append, faults_append,
        List.flatMap_singleton, reduceCtorEq, false_and, exists_false, or_false, or_assoc]
    · simp [lambdaCount_cons, isLambda, hp]

theorem ifStatement_eq (inner : Level) (n : Node) (d : Nat) :
    ifStatement inner n d = do
      let built ← buildLadder inner n d
      return built.1.flatMap Arm.lambdas ++ [.mk (.ifElse (built.1.map Arm.arm) built.2) n.span d
        (total Arm.conditionals built.1)] := by
  simp [ifStatement, buildLadder]

/-- The first `if` of a ladder offends as a further one would: only the limit on nesting, which
holds here, tells them apart. -/
theorem offends_iff_of_ifElse (hc : v.construct = .ifElse) (ho : v.opened < nestingLimit)
    (e : NormalizationError) : v.Offends e ↔ (v.beside .rung v.node).Offends e := by
  have hk := kind_of_ifElse hc
  have hr : (v.beside .rung v.node).construct = .ifElse := by
    simp [construct, beside, hk, Construct.ofKind]
  constructor
  · rintro ⟨_, _, ⟨_, h⟩ | ⟨_, ha, hk, h⟩ | _ | _ | _ | _ | _ | _ | ⟨_, h⟩, rfl⟩
    case missingConsequence => exact (HasFault.missingConsequence hr h).offends
    case elseWithoutStatement => exact (HasFault.elseWithoutStatement hr ha hk h).offends
    case nestedTooDeep => omega
    all_goals simp_all
  · rintro ⟨_, _, ⟨_, h⟩ | ⟨_, ha, hk, h⟩ | _ | _ | _ | _ | _ | _ | ⟨h, _⟩, rfl⟩
    case missingConsequence => exact (HasFault.missingConsequence hc h).offends
    case elseWithoutStatement => exact (HasFault.elseWithoutStatement hc ha hk h).offends
    case nestedTooDeep => cases h
    all_goals simp_all

theorem builds_ifStatement (h : inner.Exact v.inside) (hc : v.construct = .ifElse)
    (ho : v.opened < nestingLimit) :
    Builds (ifStatement inner v.node v.depth) v.visits v.statements := by
  have hk := kind_of_ifElse hc
  have hr : (v.beside .rung v.node).construct = .ifElse := by
    simp [construct, beside, hk, Construct.ofKind]
  have hladder := builds_buildLadder (v := v.beside .rung v.node) h rfl hk
  rw [ifStatement_eq, visits_eq, next_of_ifElse hc, statements_eq, statementsWith, hc]
  rw [visits_eq, next_of_ifElse hr] at hladder
  refine Outcome.congr (hladder.map _) (fun e => ?_) rfl ?_
  · simp only [faults_cons, offends_iff_of_ifElse hc ho]
    rfl
  · have hp : v.position ≠ .lambda := position_ne_lambda_iff.2 (by simp [hc])
    simp only [lambdaCount_cons, isLambda, hp]
    rfl

/-! ### Loops, switches and try statements

A body that is missing is noticed before anything else is built, so the proofs begin with it. -/

theorem builds_loopStatement (h : inner.Exact v.inside) (hc : v.construct = .loop)
    (ho : v.opened < nestingLimit) :
    Builds (loopStatement inner v.node v.depth) v.visits v.statements := by
  have hp : v.position ≠ .lambda := position_ne_lambda_iff.2 (by simp [hc])
  rw [loopStatement]
  cases hb : v.node.childWithRole? .body with
  | none =>
    rw [require_none hb, visits_eq]
    exact Outcome.fail_bind (by simp [(HasFault.missingLoopBody hc hb).offends]) _ _ _
  | some b =>
    have hbody : Builds (body inner b (v.depth + 1)) (visits (v.below .body b))
        (statements (v.below .body b)) := builds_body (v := v.below .body b) h rfl
    have hnone : ∀ e, ¬v.Offends e := by
      rintro e ⟨_, _, _ | _ | ⟨_, h⟩ | _ | _ | _ | _ | _ | ⟨_, h⟩, -⟩ <;> simp_all
    rw [require_some hb, pure_bind, visits_eq, statements_eq]
    simp only [next, statementsWith, hc, List.flatMap_append]
    refine Builds.cons ?_ hnone hp
    have he : v.enclosed v.node .body = [v.below .body b] := by simp [enclosed, hb]
    rw [he, List.flatMap_singleton, List.flatMap_singleton]
    exact (builds_headerLambdas h v.headers).bind (hbody.map _)

/-- One item of a switch. -/
def buildItem (inner : Level) (depth : Nat) (item : Node) : Build (CaseLabels × List Statement) :=
  if item.kind = .case then do
    let statements ← sequence inner depth (item.children.filter fun c => c.role != some .value)
    return (caseLabel item, statements)
  else if item.kind = .conditionalGroup then do
    let built ← inner.switchGroup item depth
    return (built.1, [block item depth built.2])
  else do
    let statements ← inner.statement item depth
    return ({}, statements)

theorem switchItems_cons (inner : Level) (depth : Nat) (item : Node) (items : List Node) :
    switchItems inner depth (item :: items) = do
      let first ← buildItem inner depth item
      let rest ← switchItems inner depth items
      return (first.1.append rest.1, first.2 ++ rest.2) := by
  rw [switchItems, buildItem]
  split
  · simp
  · split <;> simp

theorem builds_buildItem (h : inner.Exact v.opened) (hp : v.position = .item) :
    Builds (buildItem inner v.depth v.node) v.visits (itemLabels v.node, v.statements) := by
  rw [buildItem, itemLabels_eq]
  split
  · next hk =>
    have hc : v.construct = .case := by simp [construct, hp, hk, Construct.ofKind]
    have hi : v.inside = v.opened := by simp [inside, opens, hp, hk]
    rw [visits_eq, statements_eq]
    simp only [next, statementsWith, hc]
    refine Builds.cons ((builds_sequence (hi ▸ h) _).map _) ?_ (by simp [hp])
    rintro e ⟨_, _, _ | _ | _ | _ | _ | _ | _ | _ | _, -⟩ <;> simp_all [opens]
  · split
    · next hk =>
      have hc : v.construct = .group := by simp [construct, hp, hk, Construct.ofKind]
      have hg := h.switchGroup rfl hp hk
      rw [statements_eq]
      simp only [statementsWith, hc]
      rw [itemLabels_eq, if_neg (by simp [hk]), if_pos hk] at hg
      exact hg.map fun built => (built.1, [block v.node v.depth built.2])
    · next hk hg => exact (h.statement rfl (by simp [IsStatement, hp, hk, hg])).map _

theorem builds_switchItems {d o : Nat} (h : inner.Exact o) (ns : List Node) :
    Builds (switchItems inner d ns) ((ns.map fun n => ⟨.item, n, d, o⟩).flatMap visits)
      (joinLabels (ns.map itemLabels), (ns.map fun n => ⟨.item, n, d, o⟩).flatMap statements) := by
  induction ns with
  | nil => exact Builds.pure _
  | cons n ns ih =>
    rw [switchItems_cons, List.map_cons, List.flatMap_cons, List.flatMap_cons]
    exact (builds_buildItem (v := ⟨.item, n, d, o⟩) h rfl).bind (ih.map _)

theorem builds_switchStatement (h : inner.Exact v.inside) (hc : v.construct = .switch)
    (ho : v.opened < nestingLimit) :
    Builds (switchStatement inner v.node v.depth) v.visits v.statements := by
  have hp : v.position ≠ .lambda := position_ne_lambda_iff.2 (by simp [hc])
  rw [switchStatement]
  cases hb : v.node.childWithRole? .body with
  | none =>
    rw [require_none hb, visits_eq]
    exact Outcome.fail_bind (by simp [(HasFault.missingSwitchBody hc hb).offends]) _ _ _
  | some b =>
    have hitems := builds_switchItems (d := v.depth + 1) h b.children
    have hnone : ∀ e, ¬v.Offends e := by
      rintro e ⟨_, _, _ | _ | _ | ⟨_, h⟩ | _ | _ | _ | _ | ⟨_, h⟩, -⟩ <;> simp_all
    rw [require_some hb, pure_bind, visits_eq, statements_eq]
    simp only [next, statementsWith, hc, List.flatMap_append]
    refine Builds.cons ?_ hnone hp
    have he : v.items = b.children.map (v.below .item) := by simp [items, hb]
    have hlabels : (v.items.map fun w => itemLabels w.node) = b.children.map itemLabels := by
      simp [he]
    rw [hlabels, he]
    have hs := outcome_conditionLambdas_bind h (k := fun lambdas => do
      let built ← switchItems inner (v.depth + 1) b.children
      return lambdas ++ [Statement.mk
        (.switch built.1.count built.1.hasDefault v.logical built.2) v.node.span v.depth
        v.conditionals]) (hitems.map _)
    exact Outcome.congr hs (fun e => (faults_append ..).symm) rfl (lambdaCount_append ..).symm

theorem outcome_buildHandlers (h : inner.Exact v.inside) (cs : List Node) :
    Outcome (buildHandlers inner v.depth cs)
      (fun e => (∃ c ∈ cs, c.childWithRole? .body = none ∧ e = errorAt c .missingCatchBody) ∨
        Faults ((cs.map fun c => v.enclosed c .body).flatten.flatMap visits) e)
      (cs.map fun c => (v.enclosed c .body).flatMap statements)
      (lambdaCount ((cs.map fun c => v.enclosed c .body).flatten.flatMap visits)) := by
  induction cs with
  | nil => exact (Outcome.pure []).congr (by simp) rfl rfl
  | cons c cs ih =>
    have hb := outcome_require_body h c .body .missingCatchBody
    have := hb.bind (f := fun first => do
      let rest ← buildHandlers inner v.depth cs
      return first :: rest) (ih.map _)
    rw [bind_assoc] at this
    refine Outcome.congr this (fun e => ?_) rfl ?_
    · simp only [List.map_cons, List.flatten_cons, List.flatMap_append, faults_append,
        List.exists_mem_cons_iff]
      exact or_or_or_comm
    · simp

theorem offends_iff_of_tryCatch (hc : v.construct = .tryCatch) (ho : v.opened < nestingLimit)
    (e : NormalizationError) : v.Offends e ↔
      (v.node.childWithRole? .body = none ∧ e = errorAt v.node .missingTryBody) ∨
      ∃ c ∈ v.node.childrenOfKind .catchClause, c.childWithRole? .body = none ∧
        e = errorAt c .missingCatchBody := by
  constructor
  · rintro ⟨_, _, _ | _ | _ | _ | ⟨_, h⟩ | ⟨_, hk, h⟩ | _ | _ | ⟨_, h⟩, rfl⟩
    case missingTryBody => exact Or.inl ⟨h, rfl⟩
    case missingCatchBody => exact Or.inr ⟨_, hk, h, rfl⟩
    case nestedTooDeep => omega
    all_goals simp_all
  · rintro (⟨h, rfl⟩ | ⟨c, hk, h, rfl⟩)
    · exact (HasFault.missingTryBody hc h).offends
    · exact (HasFault.missingCatchBody hc hk h).offends

theorem builds_tryStatement (h : inner.Exact v.inside) (hc : v.construct = .tryCatch)
    (ho : v.opened < nestingLimit) :
    Builds (tryStatement inner v.node v.depth) v.visits v.statements := by
  have hp : v.position ≠ .lambda := position_ne_lambda_iff.2 (by simp [hc])
  have hb := outcome_require_body h v.node .body .missingTryBody
  have hh := outcome_buildHandlers h (v.node.childrenOfKind .catchClause)
  have := hb.bind (f := fun statements => do
    let handlers ← buildHandlers inner v.depth (v.node.childrenOfKind .catchClause)
    return [Statement.mk (.tryCatch handlers.length statements handlers) v.node.span v.depth 0])
    (hh.map _)
  rw [bind_assoc] at this
  rw [visits_eq, statements_eq]
  simp only [next, statementsWith, hc, List.flatMap_append]
  refine Outcome.congr this (fun e => ?_) ?_ ?_
  · simp only [faults_cons, faults_append, offends_iff_of_tryCatch hc ho, handlers]
    exact or_or_or_comm
  · simp [handlers]
  · simp [lambdaCount_cons, isLambda, hp, handlers]

/-! ### All constructs, all levels -/

theorem mapStatement_eq (hv : v.IsStatement) :
    mapStatement inner v.node v.depth =
      match v.construct with
      | .lambda | .directive => pure []
      | .braces => do
        let statements ← sequence inner v.depth v.node.children
        return [block v.node v.depth statements]
      | .group => do
        let statements ← sequence inner v.depth (groupItems v.node)
        return [block v.node v.depth statements]
      | .labeled => sequence inner v.depth (v.node.children.filter fun c => c.kind != .identifier)
      | .ifElse => ifStatement inner v.node v.depth
      | .loop => loopStatement inner v.node v.depth
      | .switch => switchStatement inner v.node v.depth
      | .tryCatch => tryStatement inner v.node v.depth
      | .case | .clause => fail v.node .outsideConstruct
      | .plain => do
        let lambdas ← mergeLambdas inner v.node v.depth
        return .mk .sequential v.node.span v.depth v.node.countConditionals :: lambdas := by
  rw [mapStatement, hv.construct_eq]
  cases v.node.kind <;> rfl

theorem builds_mapStatement (h : inner.Exact (v.opened + 1)) (hv : v.IsStatement)
    (ho : v.opened < nestingLimit) :
    Builds (mapStatement inner v.node v.depth) v.visits v.statements := by
  have hi : inner.Exact v.inside := hv.inside_eq ▸ h
  have hnone : v.construct ∈ harmless → ∀ e, ¬v.Offends e := fun hc =>
    not_offends_of_harmless hc fun _ => Nat.ne_of_lt ho
  rw [mapStatement_eq hv]
  cases hc : v.construct
  case lambda => exact absurd hc (position_ne_lambda_iff.1 hv.not_lambda)
  case directive =>
    rw [visits_eq, statements_eq]
    simp only [next, statementsWith, hc]
    exact (Builds.pure []).cons (hnone (by simp [hc, harmless])) hv.not_lambda
  case braces =>
    have hp : v.position ≠ .body := hv.not_body hc
    rw [visits_eq, statements_eq]
    simp only [next, statementsWith, hc, if_neg hp]
    exact Builds.cons ((builds_sequence hi _).map _) (hnone (by simp [hc, harmless])) hv.not_lambda
  case group =>
    have hp : v.groupPosition = .statement := if_neg (hv.not_item (Or.inr hc))
    rw [visits_eq, statements_eq]
    simp only [next, statementsWith, hc, hp]
    exact Builds.cons ((builds_sequence hi _).map _) (hnone (by simp [hc, harmless])) hv.not_lambda
  case labeled =>
    rw [visits_eq, statements_eq]
    simp only [next, statementsWith, hc]
    exact Builds.cons (builds_sequence hi _) (hnone (by simp [hc, harmless])) hv.not_lambda
  case ifElse => exact builds_ifStatement hi hc ho
  case loop => exact builds_loopStatement hi hc ho
  case switch => exact builds_switchStatement hi hc ho
  case tryCatch => exact builds_tryStatement hi hc ho
  case case =>
    have hfault := HasFault.misplacedCase hc (hv.not_item (Or.inl hc))
    exact Outcome.fail ⟨v, v.mem_visits_self, hfault.offends⟩ _ _
  case clause =>
    exact Outcome.fail ⟨v, v.mem_visits_self, (HasFault.misplacedClause hc).offends⟩ _ _
  case plain =>
    rw [visits_eq, statements_eq]
    simp only [next, statementsWith, hc]
    exact Builds.cons ((builds_mergeLambdas hi _).map _) (hnone (by simp [hc, harmless]))
      hv.not_lambda

/-- **What a number of levels build for a node is what its visits say.** -/
theorem exact_level {k opened : Nat} (h : opened + k = nestingLimit) :
    (level k).Exact opened := by
  induction k generalizing opened with
  | zero =>
    -- no level is left, so `nestingLimit` statements are open
    have hdeep : ∀ v : Visit, v.opens → v.opened = opened →
        Faults v.visits (errorAt v.node .nestedTooDeep) := fun v hv ho =>
      ⟨v, v.mem_visits_self, (HasFault.nestedTooDeep hv (by omega)).offends⟩
    constructor
    · intro v ho hv
      exact Outcome.fail (hdeep v hv.opens ho) _ _
    · intro v ho hp hk
      exact Outcome.fail (hdeep v (by simp [opens, hp, hk]) ho) _ _
  | succ k ih =>
    have hk : (level k).Exact (opened + 1) := ih (by omega)
    constructor
    · intro v ho hv
      subst ho
      exact builds_mapStatement hk hv (by omega)
    · intro v ho hp hg
      subst ho
      have hc : v.construct = .group := by simp [construct, hp, hg, Construct.ofKind]
      have hi : v.inside = v.opened + 1 := by simp [inside, opens, hp, hg]
      have hitems := builds_switchItems (d := v.depth) hk (groupItems v.node)
      have hn : v.next = (groupItems v.node).map fun n => ⟨.item, n, v.depth, v.opened + 1⟩ := by
        simp [next, hc, groupPosition, hp, beside, hi]
      rw [visits_eq, itemLabels_eq, if_neg (by simp [hg]), if_pos hg, hn]
      exact Builds.cons hitems (not_offends_of_harmless (by simp [hc, harmless]) fun _ => by omega)
        (by simp [hp])

/-- **Building a body** either gives its statements or fails with a fault of one of its visits. -/
theorem builds_ofBody (n : Node) :
    Builds (body (level nestingLimit) n 0) (start n).visits (start n).statements :=
  builds_body (v := start n) (exact_level (Nat.zero_add _)) rfl

theorem ofBody_eq_ok {n : Node} {ss : List Statement} {lambdas : Nat}
    (h : ofBody n = .ok (ss, lambdas)) :
    ss = (start n).statements ∧ lambdas = lambdaCount (start n).visits ∧
      ∀ e, ¬Faults (start n).visits e := by
  rcases builds_ofBody n 0 with ⟨hs, hF⟩ | ⟨e, -, hs⟩
  · rw [ofBody, hs, Nat.zero_add] at h
    cases h
    exact ⟨rfl, rfl, hF⟩
  · rw [ofBody, hs] at h
    cases h

theorem faults_of_ofBody_eq_error {n : Node} {e : NormalizationError}
    (h : ofBody n = .error e) : Faults (start n).visits e := by
  rcases builds_ofBody n 0 with ⟨hs, -⟩ | ⟨e', he, hs⟩
  · rw [ofBody, hs] at h
    cases h
  · rw [ofBody, hs] at h
    cases h
    exact he

end

end CodeMetrics.Build
