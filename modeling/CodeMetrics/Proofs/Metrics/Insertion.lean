import CodeMetrics.Proofs.Metrics.Enumeration
import CodeMetrics.Proofs.Statement.Context

/-!
# Metrics under edits

What a list of statements adds to the tally of a body depends on the list and on the number of
control constructs around it, and on nothing else: the tally of a context with a list in its gap is
the tally of the context with an empty gap and the tally of the list at the depth of the gap
(`Statement.Context.ofStatements_plug`). The depth in turn only raises the nesting
(`Statement.ofStatement_deepen`).

So the tally of a body follows every edit of it. Inserting a statement adds what the statement has
by itself, with its nesting raised by the depth; one case label more is one decision and one branch
more; and since tallies are added up in any order, neither the order of siblings nor blocks around
them matter (`StructuralUnit.metrics_follow_edits`).
-/

namespace CodeMetrics

open Tally

/-! ### Deeper tallies -/

namespace Tally

/-- **The tally of the same statements with more control constructs around them**: their nesting, if
there is any, is raised. -/
def deepen (d : Nat) (t : Tally) : Tally :=
  { t with maxNesting := if t.maxNesting = 0 then 0 else d + t.maxNesting }

theorem deepen_zero (d : Nat) : deepen d 0 = 0 := rfl

theorem deepen_add (d : Nat) (a b : Tally) : deepen d (a + b) = deepen d a + deepen d b := by
  ext
  case maxNesting =>
    -- raising both keeps the greater one, and a tally without nesting has none before and after
    simp only [deepen, add_maxNesting]
    grind
  all_goals rfl

theorem deepen_sum (d : Nat) (ts : List Tally) : ts.sum.deepen d = (ts.map (deepen d)).sum := by
  induction ts with
  | nil => exact deepen_zero d
  | cons t ts ih => rw [List.sum_cons, deepen_add, ih, List.map_cons, List.sum_cons]

end Tally

namespace Statement

section

variable (config : Config)

theorem own_deepen (d k : Nat) (s : Statement) :
    s.own config (d + k) = (s.own config k).deepen d := by
  ext <;> simp only [own, deepen]
  split <;> simp [Nat.add_assoc]

theorem inside_add (s : Statement) (d k : Nat) : s.inside (d + k) = d + s.inside k := by
  rw [inside, inside]
  split <;> rfl

/-- **Control constructs around a statement only raise its nesting.** -/
theorem ofStatement_deepen (d k : Nat) (s : Statement) :
    ofStatement config (d + k) s = (ofStatement config k s).deepen d := by
  induction s using nested_induction generalizing k with
  | h s ih =>
    rw [ofStatement_eq, ofStatement_eq, deepen_add, own_deepen, inside_add, ofStatements_eq_sum,
      ofStatements_eq_sum, deepen_sum, List.map_map]
    exact congrArg₂ (· + ·) rfl
      (congrArg List.sum (List.map_congr_left fun t ht => ih t ht (s.inside k)))

/-- A statement has a nesting if there is a control construct in it. -/
theorem maxNesting_ofStatement_eq_zero_iff (d : Nat) (s : Statement) :
    (ofStatement config d s).maxNesting = 0 ↔ s.within.any isControl = false := by
  induction s using nested_induction generalizing d with
  | h s ih =>
    have hnested : (ofStatements config (s.inside d) s.nested).maxNesting = 0 ↔
        (s.nested.flatMap within).any isControl = false := by
      rw [ofStatements_eq_sum]
      constructor
      · intro h
        rw [List.any_flatMap, List.any_eq_false]
        intro t ht
        have := maxNesting_le_sum (List.mem_map_of_mem (f := ofStatement config (s.inside d)) ht)
        rw [(ih t ht (s.inside d)).1 (by omega)]
        exact Bool.false_ne_true
      · intro h
        by_contra hne
        obtain ⟨_, hu, heq⟩ := exists_maxNesting_eq_sum hne
        obtain ⟨t, ht, rfl⟩ := List.mem_map.1 hu
        rw [List.any_flatMap, List.any_eq_false] at h
        rw [(ih t ht _).2 (Bool.eq_false_of_not_eq_true (h t ht))] at heq
        exact hne heq.symm
    have hown : (s.own config d).maxNesting = 0 ↔ s.isControl = false := by
      cases h : s.isControl <;> simp [own, h]
    rw [ofStatement_eq, add_maxNesting, Nat.max_eq_zero_iff, hown, hnested, within_eq,
      List.any_cons, Bool.or_eq_false_iff]

/-! ### Recorded depths -/

theorem own_redepth (f : Nat → Nat) (d : Nat) (s : Statement) :
    (s.redepth f).own config d = s.own config d := by
  obtain ⟨kind, span, depth, conditionals⟩ := s
  cases kind with
  | ifElse arms otherwise =>
    -- the only sort whose own part is read off its lists: the arms and the last alternative
    have harms : armOperators (redepthArms f arms) = armOperators arms := by
      rw [armOperators, armOperators, redepthArms_eq_map, total_map]
      rfl
    simp [redepth, redepthKind, own, decisions, points, logicalOperators, hasElse, hasDefault,
      isControl, isBlock, isLoop, kind, conditionalExpressions, redepthArms_eq_map,
      redepthOtherwise_eq_map, ← harms]
  | _ => rfl

theorem inside_redepth (f : Nat → Nat) (d : Nat) (s : Statement) :
    (s.redepth f).inside d = s.inside d := by
  obtain ⟨kind, span, depth, conditionals⟩ := s
  cases kind <;> rfl

/-- **The tally does not look at the depths that statements record.** -/
theorem ofStatement_redepth (f : Nat → Nat) (d : Nat) (s : Statement) :
    ofStatement config d (s.redepth f) = ofStatement config d s := by
  induction s using nested_induction generalizing d with
  | h s ih =>
    rw [ofStatement_eq, ofStatement_eq, own_redepth, inside_redepth, nested_redepth,
      ofStatements_eq_sum, ofStatements_eq_sum, List.map_map]
    exact congrArg₂ (· + ·) rfl (congrArg List.sum (List.map_congr_left fun t ht => ih t ht _))

end

/-! ### Every place is the gap of a context -/

theorem Stands.exists_holds {body around : List Statement} {s : Statement}
    (h : Stands body around s) : ∃ ss, Holds body around ss ∧ s ∈ ss := by
  induction h with
  | top h => exact ⟨body, .top, h⟩
  | @nested around t s _ hs ih =>
    obtain ⟨ss, hss, ht⟩ := ih
    rw [← flatten_lists] at hs
    obtain ⟨xs, hxs, hs⟩ := List.mem_flatten.1 hs
    exact ⟨xs, .nested hss ht hxs, hs⟩

/-- **Each statement that stands in a body is in the gap of a context**, among its siblings. -/
theorem Stands.exists_context {body around : List Statement} {s : Statement}
    (h : Stands body around s) :
    ∃ (C : Context) (xs ys : List Statement), C.plug (xs ++ s :: ys) = body ∧
      C.controlDepth = around.countP isControl := by
  obtain ⟨ss, hss, hs⟩ := h.exists_holds
  obtain ⟨xs, ys, rfl⟩ := List.append_of_mem hs
  obtain ⟨C, hplug, hdepth⟩ := hss.exists_context
  exact ⟨C, xs, ys, hplug, hdepth⟩

/-! ### Tallies of contexts -/

section

variable (config : Config)

theorem Layer.ofStatement_statement (d : Nat) (l : Layer) (xs : List Statement) :
    ofStatement config d (l.statement xs) =
      ofStatement config d (l.statement []) +
        ofStatements config (if l.frame.isControl then d + 1 else d) xs := by
  -- by itself a statement counts for the same whatever is in the gap
  have hown : (l.statement xs).own config d = (l.statement []).own config d := by
    rcases l with ⟨_, _ | _ | _ | _ | _ | _ | _, _, _, _, _⟩ <;>
      simp [statement, Frame.fill, own, decisions, points, logicalOperators, hasElse,
        Statement.hasDefault, Statement.isControl, isBlock, isLoop, kind,
        Statement.conditionalExpressions, armOperators, ConditionalArm.logicalOperators]
  rw [ofStatement_eq, ofStatement_eq, hown, inside, inside, isControl_statement,
    isControl_statement, add_assoc]
  congr 1
  -- and the gap is one part of what is nested in it
  rcases l with ⟨_, _ | _ | _ | _ | _ | _ | _, _, _, _, _⟩ <;>
    simp [statement, Frame.fill, Frame.isControl, nested, kind, ConditionalArm.body] <;>
    abel

namespace Context

variable (C : Context)

/-- **What is in a gap adds its own tally at the depth of the gap** to the tally of the context. -/
theorem ofStatements_plug (d : Nat) (xs : List Statement) :
    ofStatements config d (C.plug xs) =
      ofStatements config d (C.plug []) + ofStatements config (C.controlDepth + d) xs := by
  induction C generalizing d with
  | nil => simp [plug, controlDepth]
  | cons l C ih =>
    have hinner : controlDepth (l :: C) + d =
        controlDepth C + if l.frame.isControl then d + 1 else d := by
      rw [controlDepth, controlDepth, List.countP_cons]
      split <;> omega
    -- the gap of the outermost layer holds the rest of the context
    have hl : ∀ ys, ofStatements config d (plug (l :: C) ys) =
        ofStatements config d l.before + ofStatement config d (l.statement []) +
          ofStatements config d l.after +
          ofStatements config (if l.frame.isControl then d + 1 else d) (plug C ys) := by
      intro ys
      have : plug (l :: C) ys = l.before ++ l.statement (plug C ys) :: l.after := rfl
      rw [this, ofStatements_append, ofStatements_cons, Layer.ofStatement_statement]
      abel
    rw [hl xs, hl [], ih, hinner, add_assoc _ (ofStatements config _ (plug C []))]

theorem ofStatements_plug_insert (xs ys : List Statement) (s : Statement) :
    ofStatements config 0 (C.plug (xs ++ s :: ys)) =
      ofStatements config 0 (C.plug (xs ++ ys)) +
        (ofStatement config 0 s).deepen C.controlDepth := by
  rw [ofStatements_plug, ofStatements_plug config C 0 (xs ++ ys), ofStatements_append,
    ofStatements_append, ofStatements_cons, ofStatement_deepen]
  abel

theorem ofStatements_plug_congr {xs ys : List Statement}
    (h : ∀ d, ofStatements config d xs = ofStatements config d ys) :
    ofStatements config 0 (C.plug xs) = ofStatements config 0 (C.plug ys) := by
  rw [ofStatements_plug, h, ← ofStatements_plug]

end Context

end

end Statement

/-- **What an insertion does to a tally**: the counts of what is inserted are added, and the nesting
is the old one or, if there is a control construct in what is inserted, that of what is inserted,
raised by the depth. -/
structure Tally.Inserts (depth : Nat) (s : Statement) (before alone after : Tally) : Prop where
  decisions : after.decisions = before.decisions + alone.decisions
  statements : after.statements = before.statements + alone.statements
  branches : after.branches = before.branches + alone.branches
  loops : after.loops = before.loops + alone.loops
  maxNesting : after.maxNesting = max before.maxNesting
    (if s.within.any Statement.isControl then depth + alone.maxNesting else 0)

namespace Statement.Context

theorem inserts_plug (config : Config) (C : Context) (xs ys : List Statement) (s : Statement)
    (f : Nat → Nat) :
    Tally.Inserts C.controlDepth s (ofStatements config 0 (C.plug (xs ++ ys)))
      (ofStatements config 0 [s.redepth f]) (ofStatements config 0 (C.plug (xs ++ s :: ys))) := by
  have halone : ofStatements config 0 [s.redepth f] = ofStatement config 0 s := by
    rw [ofStatements_cons, ofStatements_nil, add_zero, ofStatement_redepth]
  rw [ofStatements_plug_insert, halone]
  refine ⟨rfl, rfl, rfl, rfl, congrArg (max _) ?_⟩
  have hzero := maxNesting_ofStatement_eq_zero_iff config 0 s
  cases hc : s.within.any isControl <;> simp_all [deepen]

/-- One case label more of a switch is one decision and one branch more. -/
theorem ofStatements_plug_switch (config : Config) (C : Context) (xs ys body : List Statement)
    (n operators depth conditionals : Nat) (present : Bool) (span : Span) :
    ofStatements config 0 (C.plug (xs ++
        .mk (.switch (n + 1) present operators body) span depth conditionals :: ys)) =
      ofStatements config 0 (C.plug (xs ++
        .mk (.switch n present operators body) span depth conditionals :: ys)) +
          { decisions := 1, branches := 1 } := by
  have hswitch : ∀ d,
      ofStatement config d (.mk (.switch (n + 1) present operators body) span depth conditionals) =
        ofStatement config d (.mk (.switch n present operators body) span depth conditionals) +
          { decisions := 1, branches := 1 } := by
    intro d
    rw [ofStatement_eq, ofStatement_eq, add_right_comm]
    refine congrArg₂ (· + ·) ?_ rfl
    ext
    case decisions =>
      simp only [own, decisions, points, kind, logicalOperators, Statement.hasDefault, hasElse,
        conditionalExpressions, add_decisions]
      omega
    all_goals rfl
  rw [ofStatements_plug, ofStatements_plug config C 0 (xs ++ _ :: ys), ofStatements_append,
    ofStatements_append, ofStatements_cons, ofStatements_cons, hswitch]
  abel

theorem ofStatements_plug_block (config : Config) (C : Context) (xs run ys : List Statement)
    (span : Span) (depth : Nat) :
    ofStatements config 0 (C.plug (xs ++ .mk (.block run) span depth 0 :: ys)) =
      ofStatements config 0 (C.plug (xs ++ run ++ ys)) := by
  refine ofStatements_plug_congr config C fun d => ?_
  have hblock :
      ofStatement config d (.mk (.block run) span depth 0) = ofStatements config d run := by
    rw [ofStatement, when_zero, ofKind]
    exact zero_add _
  rw [ofStatements_append, ofStatements_cons, hblock, ofStatements_append, ofStatements_append,
    add_assoc]

theorem ofStatements_plug_perm (config : Config) (C : Context) {xs ys : List Statement}
    (h : xs.Perm ys) :
    ofStatements config 0 (C.plug xs) = ofStatements config 0 (C.plug ys) := by
  refine ofStatements_plug_congr config C fun d => ?_
  rw [ofStatements_eq_sum, ofStatements_eq_sum, (h.map _).sum_eq]

end Statement.Context

namespace StructuralUnit

open Statement

/-- The unit with another body. -/
def withBody (u : StructuralUnit) (body : List Statement) : StructuralUnit := { u with body }

theorem metrics_withBody_eq {config : Config} {u : StructuralUnit} {body : List Statement}
    (h : ofStatements config 0 body = ofStatements config 0 u.body) :
    (u.withBody body).metrics config = u.metrics config := by
  simp only [metrics, withBody, h]

/-- A decision and a branch more are one more in each of two metrics. -/
theorem metrics_withBody_decision {config : Config} {u : StructuralUnit} {body : List Statement}
    (h : ofStatements config 0 body =
      ofStatements config 0 u.body + { decisions := 1, branches := 1 }) :
    (u.withBody body).metrics config =
      { u.metrics config with
        cyclomatic := (u.metrics config).cyclomatic + 1
        branches := (u.metrics config).branches + 1 } := by
  simp only [metrics, withBody, h, add_decisions, add_maxNesting, add_statements, add_branches,
    add_loops, ← Nat.add_assoc, UInt32.ofNat_add, Nat.max_zero, Nat.add_zero]
  rfl

/-- **The metrics follow every edit of a unit.** Every list of statements in the unit is the list in
the gap of a context, at its depth, and every statement is in such a list. In each of them,

* a statement that is inserted adds what it counts for as a body of its own, whatever depths it
  records, and its nesting there is raised by the depth of the list;
* one case label more of a switch is one more in the complexity and in the branches, and changes
  nothing else;
* a block around some of the statements changes nothing;
* another order of the statements changes nothing. -/
theorem metrics_follow_edits (config : Config) (u : StructuralUnit) :
    (∀ around xs, Holds u.body around xs →
      ∃ C : Context, C.plug xs = u.body ∧ C.controlDepth = around.countP isControl) ∧
    (∀ around s, Stands u.body around s →
      ∃ (C : Context) (xs ys : List Statement), C.plug (xs ++ s :: ys) = u.body ∧
        C.controlDepth = around.countP isControl) ∧
    ∀ C : Context,
      (∀ xs ys s f, C.plug (xs ++ ys) = u.body →
        Tally.Inserts C.controlDepth s (ofStatements config 0 u.body)
          (ofStatements config 0 [s.redepth f]) (ofStatements config 0 (C.plug (xs ++ s :: ys))) ∧
        ((u.withBody (C.plug (xs ++ s :: ys))).metrics config).Reports
          (ofStatements config 0 (C.plug (xs ++ s :: ys)))) ∧
      (∀ xs ys n present operators body span depth conditionals,
        C.plug (xs ++ .mk (.switch n present operators body) span depth conditionals :: ys) =
          u.body →
        ofStatements config 0 (C.plug (xs ++
            .mk (.switch (n + 1) present operators body) span depth conditionals :: ys)) =
          ofStatements config 0 u.body + { decisions := 1, branches := 1 } ∧
        (u.withBody (C.plug (xs ++
            .mk (.switch (n + 1) present operators body) span depth conditionals :: ys))).metrics
          config =
          { u.metrics config with
            cyclomatic := (u.metrics config).cyclomatic + 1
            branches := (u.metrics config).branches + 1 }) ∧
      (∀ xs run ys span depth, C.plug (xs ++ run ++ ys) = u.body →
        (u.withBody (C.plug (xs ++ .mk (.block run) span depth 0 :: ys))).metrics config =
          u.metrics config) ∧
      (∀ xs ys, xs.Perm ys → C.plug xs = u.body →
        (u.withBody (C.plug ys)).metrics config = u.metrics config) := by
  refine ⟨fun _ _ h => h.exists_context, fun _ _ h => h.exists_context, fun C => ⟨?_, ?_, ?_, ?_⟩⟩
  · intro xs ys s f hu
    rw [← hu]
    exact ⟨C.inserts_plug config xs ys s f, metrics_reports config (u.withBody _)⟩
  · intro xs ys n present operators body span depth conditionals hu
    have h := C.ofStatements_plug_switch config xs ys body n operators depth conditionals present
      span
    rw [hu] at h
    exact ⟨h, metrics_withBody_decision h⟩
  · intro xs run ys span depth hu
    exact metrics_withBody_eq (by rw [C.ofStatements_plug_block, hu])
  · intro xs ys hperm hu
    exact metrics_withBody_eq (by rw [← C.ofStatements_plug_perm config hperm, hu])

/-- The gap in braces in the arm of an `if`. -/
def bracedGap : Context := [
  { before := [], frame := .arm [] 1 [] none, span := {}, depth := 0, conditionalExpressions := 0,
    after := [.mk .sequential {} 0 0] },
  { before := [], frame := .block, span := {}, depth := 1, conditionalExpressions := 0,
    after := [] }]

/-- A loop with a switch in it. -/
def loopedSwitch : Statement :=
  .mk (.loop .doLoop 0 [.mk (.switch 2 true 0 []) {} 1 0]) {} 0 0

/-- A loop with a switch in it, inserted in braces in an `if`, brings two levels of nesting to the
one that is there, and stands before or behind its sibling alike. -/
theorem metrics_follow_edits_braced :
    (ofStatements {} 0 (bracedGap.plug [.mk .sequential {} 1 0, loopedSwitch])).maxNesting = 3 ∧
      (ofStatements {} 0 (bracedGap.plug [.mk .sequential {} 1 0, loopedSwitch])).decisions = 4 ∧
      ((unitOf (bracedGap.plug [.mk .sequential {} 1 0, loopedSwitch]) 0).withBody
        (bracedGap.plug [loopedSwitch, .mk .sequential {} 1 0])).metrics {} =
        (unitOf (bracedGap.plug [.mk .sequential {} 1 0, loopedSwitch]) 0).metrics {} := by
  have hinsert := ((metrics_follow_edits {}
    (unitOf (bracedGap.plug [.mk .sequential {} 1 0]) 0)).2.2 bracedGap).1
    [.mk .sequential {} 1 0] [] loopedSwitch id rfl
  have hperm := ((metrics_follow_edits {}
    (unitOf (bracedGap.plug [.mk .sequential {} 1 0, loopedSwitch]) 0)).2.2 bracedGap).2.2.2
    [.mk .sequential {} 1 0, loopedSwitch] [loopedSwitch, .mk .sequential {} 1 0] (.swap _ _ [])
    rfl
  exact ⟨hinsert.1.maxNesting.trans (by cbv), hinsert.1.decisions.trans (by cbv), hperm⟩

end StructuralUnit

end CodeMetrics
