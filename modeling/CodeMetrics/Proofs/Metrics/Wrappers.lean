import CodeMetrics.Proofs.Metrics.Counts
import CodeMetrics.Proofs.Statement.Wrapped
import CodeMetrics.Proofs.StructuralUnit.Bodies

/-!
# What a wrapper hides

A wrapper around a statement becomes one sequential statement, whatever the statement is. Of the
statement nothing is left but the conditional expressions in it and the lambdas below it
(`Build.Visit.wrappedTally`). The rest of the body counts for what it did before, so wrapping a
statement of a body exchanges the one tally for the other and changes nothing else; and nothing
changes at all for a statement that is no construct (`StructuralUnit.wrapped_statement`).
-/

namespace CodeMetrics

open Cst Cst.Node Build Build.Visit Tally

namespace Build.Visit

variable {s w : Node} {v : Visit} {n' : Node}

/-! ### Around the wrapper -/

theorem getD_childWithRole?_eq (hw : w.Wraps s) (h : Turned s w False v.node n') (role : Role)
    {f : Node → Nat} (hf : ∀ {free : Prop} {m m' : Node}, Turned s w free m m' → f m' = f m) :
    ((n'.childWithRole? role).map f).getD 0 = ((v.node.childWithRole? role).map f).getD 0 := by
  have hmap := map_eq_of_forall₂ (f := f) (h.forall₂_childWithRole? hw role) fun m _ m' => hf
  cases hc : v.node.childWithRole? role <;> cases hc' : n'.childWithRole? role <;>
    simp_all

theorem logical_of_turned (hw : w.Wraps s) (h : Turned s w False v.node n') :
    logical { v with node := n' } = v.logical :=
  getD_childWithRole?_eq hw h .condition fun h => h.countLogical_eq hw

theorem conditionals_of_turned (hw : w.Wraps s) (h : Turned s w False v.node n') :
    conditionals { v with node := n' } = v.conditionals :=
  getD_childWithRole?_eq hw h .condition fun h => h.countConditionals_eq hw

theorem total_headers_eq (hw : w.Wraps s) (h : Turned s w False v.node n') :
    total countConditionals (headers { v with node := n' }) = total countConditionals v.headers := by
  rw [total_eq_sum, total_eq_sum,
    map_eq_of_forall₂ (forall₂_headers hw h) fun m _ m' hm => hm.countConditionals_eq hw]

theorem endsInElse_eq (hw : w.Wraps s) (h : Turned s w False v.node n')
    (hk : v.node.kind = .ifStatement) : endsInElse { v with node := n' } = v.endsInElse := by
  have hmap := map_eq_of_forall₂ (f := fun a => a.kind != .ifStatement)
    (forall₂_alternative? hw h hk) fun a _ a' ha => by
      cases ha with
      | same a => rfl
      | inside ha => rw [ha.kind_eq]
      | site ha =>
        rw [hw.kind, bne_iff_ne.2 ha]
        rfl
  rw [endsInElse, endsInElse]
  cases hc : alternative? v.node <;> cases hc' : alternative? n' <;> simp_all

theorem itemLabels_items_eq (hw : w.Wraps s) (h : Turned s w False v.node n')
    (hk : v.node.kind = .switch) :
    (items { v with node := n' }).map (fun u => itemLabels u.node) =
      v.items.map fun u => itemLabels u.node := by
  refine map_eq_of_forall₂ (forall₂_items hw h hk) ?_
  rintro u _ _ ⟨m', hm, rfl⟩
  exact hm.itemLabels_eq hw

/-- **Around a wrapper every visit contributes what it did.** -/
theorem own_eq (hw : w.Wraps s) (h : Turned s w False v.node n') (config : Config) :
    own config { v with node := n' } = v.own config := by
  unfold own
  rw [construct_eq h]
  cases hc : v.construct <;> dsimp only
  case ifElse =>
    have he := endsInElse_eq hw h (kind_of_ifElse hc)
    simp only [armTally, logical_of_turned hw h, conditionals_of_turned hw h, he]
  case loop => rw [logical_of_turned hw h, total_headers_eq hw h]
  case switch =>
    have hk : v.node.kind = .switch := by
      rw [construct_of_position (position_ne_lambda_iff.2 (by simp [hc]))] at hc
      cases hk : v.node.kind <;> simp_all [Construct.ofKind]
    rw [itemLabels_items_eq hw h hk, logical_of_turned hw h, conditionals_of_turned hw h]
  case tryCatch => rw [(forall₂_handlers hw h).length_eq]
  case case => rw [h.caseLabel_eq hw]
  case plain => rw [h.countConditionals_eq hw]

/-- A sum over the visits of two bodies: the wrapped statements make the difference. -/
theorem Along.exists_sum {M : Type} [AddCommMonoid M] {f : Visit → M}
    (hf : ∀ (v : Visit) n', Turned s w False v.node n' → f { v with node := n' } = f v)
    {vs vs' us : List Visit} (h : Along s w vs vs' us) :
    ∃ rest, (vs.map f).sum = rest + (us.map fun u => (u.visits.map f).sum).sum ∧
      (vs'.map f).sum = rest + (us.map fun u => ((visits { u with node := w }).map f).sum).sum := by
  induction h with
  | nil => exact ⟨0, by simp, by simp⟩
  | @cons v n' vs vs' us hn _ ih =>
    obtain ⟨rest, hvs, hvs'⟩ := ih
    refine ⟨f v + rest, ?_, ?_⟩
    · rw [List.map_cons, List.sum_cons, hvs, add_assoc]
    · rw [List.map_cons, List.sum_cons, hvs', hf v n' hn, add_assoc]
  | @site u vs vs' us _ _ _ ih =>
    obtain ⟨rest, hvs, hvs'⟩ := ih
    refine ⟨rest, ?_, ?_⟩
    · rw [List.map_append, List.sum_append, hvs, List.map_cons, List.sum_cons]
      abel
    · rw [List.map_append, List.sum_append, hvs', List.map_cons, List.sum_cons]
      abel

/-- What the visits of two bodies contribute: the wrapped statements make the difference. -/
theorem Along.exists_rest (hw : w.Wraps s) {vs vs' us : List Visit} (h : Along s w vs vs' us) :
    ∃ rest : Config → Tally, ∀ config,
      (vs.map (own config)).sum =
        rest config + (us.map fun u => (u.visits.map (own config)).sum).sum ∧
      (vs'.map (own config)).sum =
        rest config + (us.map fun u => ((visits { u with node := w }).map (own config)).sum).sum := by
  obtain ⟨rest, hvs, hvs'⟩ := h.exists_sum (f := fun v config => own config v)
    fun v n' hn => funext fun config => own_eq hw hn config
  refine ⟨rest, fun config => ⟨?_, ?_⟩⟩
  · simpa [Pi.list_sum_apply, Function.comp_def] using congrFun hvs config
  · simpa [Pi.list_sum_apply, Function.comp_def] using congrFun hvs' config

/-! ### The wrapper -/

theorem not_faults_of_subset {vs ws : List Visit} (h : vs ⊆ ws) (hws : ∀ e, ¬Faults ws e)
    (e : NormalizationError) : ¬Faults vs e := by
  rintro ⟨v, hv, he⟩
  exact hws e ⟨v, h hv, he⟩

/-- **What a wrapped statement counts for**: a statement with the conditional expressions in it, and
the lambdas below it. -/
def wrappedTally (config : Config) (u : Visit) : Tally :=
  { decisions := when config.countConditionalExpressions u.node.countConditionals,
    statements := 1 } +
    (u.node.lambdasBelow.map fun l =>
      ofStatements config u.depth (statements ⟨.lambda, l, u.depth, u.opened + 1⟩)).sum

section

variable {u : Visit}

theorem lambdasBelow_wrapper (hw : w.Wraps s) : w.lambdasBelow = s.lambdasBelow := by
  obtain ⟨role, hc⟩ := hw.children
  rw [lambdasBelow, hc, outermostLambdas, if_neg hw.kind_ne_lambda, List.append_nil]
  rfl

theorem construct_wrapper (hw : w.Wraps s) (hp : u.position ∉ [.lambda, .rung]) :
    construct { u with node := w } = .plain := by
  have hl : u.position ≠ .lambda := by
    intro hl
    simp [hl] at hp
  simp [construct, hl, hw.kind, Construct.ofKind]

/-- A wrapper leads to the lambdas below the statement. -/
theorem next_wrapper (hw : w.Wraps s) (hp : u.position ∉ [.lambda, .rung]) :
    next { u with node := w } =
      s.lambdasBelow.map fun l => ⟨.lambda, l, u.depth, u.opened + 1⟩ := by
  have hi : inside { u with node := w } = u.opened + 1 := by
    have ho : opens { u with node := w } = true := by
      cases hq : u.position <;> simp_all [opens, hw.kind]
    rw [inside, if_pos ho]
  rw [next, construct_wrapper hw hp]
  simp only [lambdasIn, lambdasBelow_wrapper hw]
  refine List.map_congr_left fun l _ => ?_
  rw [beside, hi]

theorem own_wrapper (hw : w.Wraps s) (hp : u.position ∉ [.lambda, .rung]) (hu : u.node = s)
    (config : Config) :
    own config { u with node := w } =
      { decisions := when config.countConditionalExpressions u.node.countConditionals,
        statements := 1 } := by
  have hsite : Turned s w True s w := .site trivial
  have hcount := hsite.countConditionals_eq hw
  rw [own, construct_wrapper hw hp, hu]
  simp only [hcount]

/-- **A wrapper counts for the conditional expressions and the lambdas below it**, and hides the
rest of the statement. -/
theorem sum_own_wrapper (hw : w.Wraps s) (hp : u.position ∉ [.lambda, .rung]) (hu : u.node = s)
    (hf : ∀ e, ¬Faults (visits { u with node := w }) e) (config : Config) :
    ((visits { u with node := w }).map (own config)).sum = wrappedTally config u := by
  rw [visits_eq, List.map_cons, List.sum_cons, own_wrapper hw hp hu, wrappedTally, hu,
    next_wrapper hw hp]
  congr 1
  rw [List.map_flatMap, List.flatMap, List.sum_flatten, List.map_map, List.map_map]
  refine congrArg List.sum (List.map_congr_left fun l hl => ?_)
  refine (tally_eq_sum config (not_faults_of_subset (fun k hk => ?_) hf)).symm
  rw [visits_eq, next_wrapper hw hp]
  exact List.mem_cons_of_mem _ (List.mem_flatMap.2 ⟨_, List.mem_map_of_mem hl, hk⟩)

/-- A statement that is wrapped counts for its statements alone. -/
theorem sum_own_statement (hw : w.Wraps s) (hp : u.position ∉ [.lambda, .rung]) (hu : u.node = s)
    (hf : ∀ e, ¬Faults u.visits e) (config : Config) :
    (u.visits.map (own config)).sum = ofStatements config u.depth u.statements := by
  have hl : (itemLabels u.node).tally = 0 := by
    rw [hu, hw.labels]
    rfl
  rw [← tally_eq_sum config hf, tally]
  cases hq : u.position <;> simp_all [statementTally]

/-! ### Statements that are no constructs -/

variable (hw : w.Wraps s) (hs : Construct.ofKind s.kind = .plain)
  (hp : u.position ∉ [.lambda, .rung]) (hu : u.node = s)
include hw hs hp hu

omit hw in
theorem construct_of_plain : u.construct = .plain := by
  have hl : u.position ≠ .lambda := by
    intro hl
    simp [hl] at hp
  rw [construct_of_position hl, hu, hs]

theorem opens_of_plain : u.opens = true := by
  have hcompound : s.kind ≠ .compound := fun hk => by simp [hk, Construct.ofKind] at hs
  have hcase := hw.kind_ne_case
  cases hq : u.position <;> simp_all [opens]

/-- The wrapper of a statement that is no construct leads to what the statement leads to. -/
theorem next_wrapper_of_plain : next { u with node := w } = u.next := by
  have hi : u.inside = u.opened + 1 := if_pos (opens_of_plain hw hs hp hu)
  rw [next_wrapper hw hp, next, construct_of_plain hs hp hu, hu]
  refine List.map_congr_left fun l _ => ?_
  rw [beside, hi]

theorem not_faults_wrapper_of_plain (hf : ∀ e, ¬Faults u.visits e) (e : NormalizationError) :
    ¬Faults (visits { u with node := w }) e := by
  have hopened : u.opened ≠ nestingLimit := fun hlimit =>
    hf _ ⟨u, mem_visits_self u,
      (HasFault.nestedTooDeep (opens_of_plain hw hs hp hu) hlimit).offends⟩
  rw [visits_eq, next_wrapper_of_plain hw hs hp hu, faults_cons, not_or]
  constructor
  · refine not_offends_of_harmless (v := { u with node := w }) ?_ (fun _ => hopened) e
    simp [construct_wrapper hw hp, harmless]
  · intro hnext
    refine hf e ?_
    rw [visits_eq]
    exact (faults_cons ..).2 (Or.inr hnext)

/-- What is summed up over a statement that is no construct is summed up over its wrapper. -/
theorem sum_wrapper_of_plain {M : Type} [AddCommMonoid M] {f : Visit → M}
    (hf : f { u with node := w } = f u) :
    ((visits { u with node := w }).map f).sum = (u.visits.map f).sum := by
  rw [visits_eq, visits_eq u, List.map_cons, List.map_cons, List.sum_cons, List.sum_cons, hf,
    next_wrapper_of_plain hw hs hp hu]

theorem own_wrapper_of_plain (config : Config) : own config { u with node := w } = u.own config := by
  rw [own_wrapper hw hp hu, own, construct_of_plain hs hp hu]

end

theorem lambdaCount_eq_sum (vs : List Visit) :
    lambdaCount vs = (vs.map fun v => if v.isLambda then 1 else 0).sum := by
  induction vs with
  | nil => rfl
  | cons v vs ih => rw [lambdaCount_cons, ih, List.map_cons, List.sum_cons, Nat.add_comm]

end Build.Visit

namespace Build

theorem ofBody_of_not_faults {n : Node} (h : ∀ e, ¬Faults (start n).visits e) :
    ofBody n = .ok ((start n).statements, lambdaCount (start n).visits) := by
  cases hb : ofBody n with
  | error e => exact absurd (faults_of_ofBody_eq_error hb) (h e)
  | ok r =>
    obtain ⟨ss, k⟩ := r
    obtain ⟨rfl, rfl, -⟩ := ofBody_eq_ok hb
    rfl

end Build

namespace StructuralUnit

variable {b b' s w : Node}

/-- The visits of a body with a wrapped statement. -/
theorem exists_along_start (hw : w.Wraps s) (h : Turned s w True b b') :
    ∃ sites, Along s w (start b).visits (start b').visits sites :=
  exists_along hw ⟨b', h.imp fun _ => by simp [start], rfl⟩

/-- Where a statement is met that is wrapped, the wrapper counts instead. -/
theorem exists_rest_of_wrapped (hw : w.Wraps s) (h : Turned s w True b b')
    {ss ss' : List Statement} {k k' : Nat} (hb : ofBody b = .ok (ss, k))
    (hb' : ofBody b' = .ok (ss', k')) :
    ∃ (sites : List Visit) (rest : Config → Tally),
      (∀ v ∈ sites, v ∈ (start b).visits ∧ v.node = s) ∧ ∀ config,
        ofStatements config 0 ss =
          rest config + (sites.map fun v => ofStatements config v.depth v.statements).sum ∧
        ofStatements config 0 ss' = rest config + (sites.map (wrappedTally config)).sum := by
  obtain ⟨rfl, -, hfaults⟩ := ofBody_eq_ok hb
  obtain ⟨rfl, -, hfaults'⟩ := ofBody_eq_ok hb'
  obtain ⟨sites, halong⟩ := exists_along_start hw h
  obtain ⟨rest, hrest⟩ := halong.exists_rest hw
  refine ⟨sites, rest, fun v hv => ?_, fun config => ⟨?_, ?_⟩⟩
  · obtain ⟨hn, -, hsub, -⟩ := halong.of_mem hv
    exact ⟨hsub (mem_visits_self v), hn⟩
  · refine (tally_eq_sum config hfaults).trans ((hrest config).1.trans ?_)
    refine congrArg (rest config + ·) (congrArg List.sum (List.map_congr_left fun v hv => ?_))
    obtain ⟨hn, hp, hsub, -⟩ := halong.of_mem hv
    exact sum_own_statement hw hp hn (not_faults_of_subset hsub hfaults) config
  · refine (tally_eq_sum config hfaults').trans ((hrest config).2.trans ?_)
    refine congrArg (rest config + ·) (congrArg List.sum (List.map_congr_left fun v hv => ?_))
    obtain ⟨hn, hp, -, hsub⟩ := halong.of_mem hv
    exact sum_own_wrapper hw hp hn (not_faults_of_subset hsub hfaults') config

/-- A body in which a statement that is no construct is wrapped is built as before. -/
theorem exists_statements_of_wrapped_plain (hw : w.Wraps s)
    (hs : Construct.ofKind s.kind = .plain) (h : Turned s w True b b') {ss : List Statement}
    {k : Nat} (hb : ofBody b = .ok (ss, k)) :
    ∃ ss', ofBody b' = .ok (ss', k) ∧
      ∀ config, ofStatements config 0 ss' = ofStatements config 0 ss := by
  obtain ⟨rfl, rfl, hfaults⟩ := ofBody_eq_ok hb
  obtain ⟨sites, halong⟩ := exists_along_start hw h
  have hfaults' : ∀ e, ¬Faults (start b').visits e := by
    refine halong.not_faults hw hfaults fun v hv => ?_
    obtain ⟨hn, hp, hsub, -⟩ := halong.of_mem hv
    exact not_faults_wrapper_of_plain hw hs hp hn (not_faults_of_subset hsub hfaults)
  refine ⟨(start b').statements, ?_, fun config => ?_⟩
  · obtain ⟨k, hk, hk'⟩ := halong.exists_sum (f := fun v => if v.isLambda then 1 else 0)
      fun v n' _ => rfl
    have hlambdas : Build.lambdaCount (start b').visits = Build.lambdaCount (start b).visits := by
      rw [lambdaCount_eq_sum, lambdaCount_eq_sum, hk, hk']
      refine congrArg (k + ·) (congrArg List.sum (List.map_congr_left fun v hv => ?_))
      obtain ⟨hn, hp, -⟩ := halong.of_mem hv
      exact sum_wrapper_of_plain hw hs hp hn rfl
    rw [ofBody_of_not_faults hfaults', hlambdas]
  · obtain ⟨rest, hrest⟩ := halong.exists_rest hw
    refine (tally_eq_sum config hfaults').trans ((hrest config).2.trans ?_)
    refine Eq.trans ?_ ((tally_eq_sum config hfaults).trans (hrest config).1).symm
    refine congrArg (rest config + ·) (congrArg List.sum (List.map_congr_left fun v hv => ?_))
    obtain ⟨hn, hp, -⟩ := halong.of_mem hv
    exact sum_wrapper_of_plain hw hs hp hn (own_wrapper_of_plain hw hs hp hn config)

/-- **What becomes of a body in which a statement is wrapped.** Where the statement is met, the
wrapper counts for the conditional expressions and the lambdas in it, instead of the statements that
it was built to; the rest of the body counts for what it did. Nothing changes, and the metrics of
the unit stay the same, if the statement is no construct. -/
theorem wrapped_statement {u : StructuralUnit} (hw : w.Wraps s) (h : Turned s w True b b')
    (hb : ofBody b = .ok (u.body, u.lambdaCount)) :
    (∀ ss' k', ofBody b' = .ok (ss', k') → ∃ (sites : List Visit) (rest : Config → Tally),
      (∀ v ∈ sites, v ∈ (start b).visits ∧ v.node = s) ∧ ∀ config,
        ofStatements config 0 u.body =
          rest config + (sites.map fun v => ofStatements config v.depth v.statements).sum ∧
        ofStatements config 0 ss' = rest config + (sites.map (wrappedTally config)).sum) ∧
    (Construct.ofKind s.kind = .plain → ∃ ss', ofBody b' = .ok (ss', u.lambdaCount) ∧
      ∀ config, metrics config { u with body := ss' } = metrics config u) := by
  refine ⟨fun ss' k' hb' => exists_rest_of_wrapped hw h hb hb', fun hs => ?_⟩
  obtain ⟨ss', hb', hsame⟩ := exists_statements_of_wrapped_plain hw hs h hb
  refine ⟨ss', hb', fun config => ?_⟩
  simp only [metrics, hsame]

/-- A statement that is no construct. -/
def plainStatement : Node := .bare .other none []

/-- An `if` around one statement. -/
def guarded (n : Node) : Node :=
  .bare .ifStatement none [.identifier .condition "x", .bare .compound (some .consequence) [n]]

/-- A node around one other, as for a statement with an attribute. -/
def attributed (n : Node) : Node := .bare .other n.role [n]

/-- A body of one statement. -/
def bodyOf (n : Node) : Node := .bare .compound (some .body) [n]

/-- What a body is built to that is an `if` around a statement. -/
def guardedStatements : List Statement :=
  [.mk (.ifElse [.mk 0 [.mk .sequential {} 1 0]] none) {} 0 0]

/-- A wrapper around the statement in an `if` changes nothing. -/
theorem wrapped_statement_inside_if :
    ∃ ss', ofBody (bodyOf (guarded (attributed plainStatement))) = .ok (ss', 0) ∧
      ∀ config, metrics config (unitOf ss' 0) = metrics config (unitOf guardedStatements 0) := by
  have hw : (attributed plainStatement).Wraps plainStatement :=
    ⟨rfl, rfl, ⟨none, rfl⟩, by decide, by rw [itemLabels_eq]; rfl⟩
  have h : Turned plainStatement (attributed plainStatement) True
      (bodyOf (guarded plainStatement)) (bodyOf (guarded (attributed plainStatement))) := by
    refine .inside (.deeper [] rfl (.deeper [_] rfl ?_))
    exact .child [] rfl ⟨by simp [bare], by simp [plainStatement, bare]⟩
  have hb : ofBody (bodyOf (guarded plainStatement)) =
      .ok ((unitOf guardedStatements 0).body, 0) := by cbv
  exact (wrapped_statement hw h hb).2 rfl

/-- A wrapper around an `if` hides it: the decision, the branch and the nesting are gone. -/
theorem wrapped_if_is_hidden :
    ofBody (bodyOf (guarded plainStatement)) = .ok (guardedStatements, 0) ∧
      ofBody (bodyOf (attributed (guarded plainStatement))) = .ok ([.mk .sequential {} 0 0], 0) ∧
      (metrics {} (unitOf guardedStatements 0)).branches = 1 ∧
      (metrics {} (unitOf guardedStatements 0)).cyclomatic = 2 ∧
      (metrics {} (unitOf guardedStatements 0)).maxNesting = 1 ∧
      (metrics {} (unitOf [.mk .sequential {} 0 0] 0)).branches = 0 ∧
      (metrics {} (unitOf [.mk .sequential {} 0 0] 0)).cyclomatic = 1 ∧
      (metrics {} (unitOf [.mk .sequential {} 0 0] 0)).maxNesting = 0 := by
  refine ⟨by cbv, by cbv, ?_⟩
  decide

end StructuralUnit

end CodeMetrics
