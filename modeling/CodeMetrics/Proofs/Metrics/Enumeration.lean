import CodeMetrics.Proofs.Statement.WellFormed
import Mathlib.Order.Bounds.Basic

/-!
# Metrics by enumeration

The tally of a body walks down its statements and hands the depth on, one level at a time. Where
each statement records its depth (`Statement.RecordsDepths`) nothing has to be handed on: the tally
is the sum, over all statements reached through `Statement.nested` in whatever order, of what each
counts for at the depth that it records (`Statement.ofStatements_eq_sum_allWithin`). Each metric is
then read off this sum, the additive ones as counts and the nesting as a greatest depth.
-/

namespace CodeMetrics

open Tally

/-- **Metrics that report a tally**: each count is the one of the tally, if a word holds it. -/
structure UnitMetrics.Reports (m : UnitMetrics) (t : Tally) : Prop where
  cyclomatic : 1 + t.decisions < UInt32.size → m.cyclomatic.toNat = 1 + t.decisions
  maxNesting : t.maxNesting < UInt32.size → m.maxNesting.toNat = t.maxNesting
  statements : t.statements < UInt64.size → m.statements.toNat = t.statements
  branches : t.branches < UInt32.size → m.branches.toNat = t.branches
  loops : t.loops < UInt32.size → m.loops.toNat = t.loops

theorem StructuralUnit.metrics_reports (config : Config) (u : StructuralUnit) :
    (u.metrics config).Reports (ofStatements config 0 u.body) where
  cyclomatic := UInt32.toNat_ofNat_of_lt'
  maxNesting := UInt32.toNat_ofNat_of_lt'
  statements := UInt64.toNat_ofNat_of_lt'
  branches := UInt32.toNat_ofNat_of_lt'
  loops := UInt32.toNat_ofNat_of_lt'

namespace Statement

/-- **A body whose statements record their depths**: each one the number of control constructs
around it. -/
def RecordsDepths (body : List Statement) : Prop :=
  ∀ around s, Stands body around s → s.depth = around.countP isControl

theorem inside_countP (s : Statement) (around : List Statement) :
    s.inside (around.countP isControl) = (s :: around).countP isControl := by
  rw [inside, List.countP_cons]
  split <;> rfl

theorem isSome_checked?_of_mem {config : Config} {depth : Nat} {ss : List Statement}
    (h : (ss.mapM (checked? config depth)).isSome) {s : Statement} (hs : s ∈ ss) :
    (s.checked? config depth).isSome := by
  induction ss with
  | nil => cases hs
  | cons t ss ih =>
    rw [List.mapM_cons] at h
    cases ht : t.checked? config depth with
    | none => simp [ht] at h
    | some first =>
      rcases List.mem_cons.1 hs with rfl | hs
      · simp [ht]
      · refine ih ?_ hs
        cases hrest : ss.mapM (checked? config depth) <;> simp_all

theorem isSome_checked?_of_stands {config : Config} {body : List Statement}
    (h : (checkedAll? config 0 body).isSome) {around : List Statement} {s : Statement}
    (hs : Stands body around s) : (s.checked? config (around.countP isControl)).isSome := by
  induction hs with
  | top hs => exact isSome_checked?_of_mem (by simpa [checkedAll?] using h) hs
  | @nested around t s ht hs ih =>
    rw [checked?_eq] at ih
    split at ih
    · have := isSome_checked?_of_mem (by simpa using ih) hs
      rwa [inside_countP] at this
    · cases ih

/-- **A tally that checks depths gives up** where a body does not record its depths. -/
theorem recordsDepths_of_checkedAll? {config : Config} {body : List Statement}
    (h : (checkedAll? config 0 body).isSome) : RecordsDepths body := by
  intro around s hs
  have := isSome_checked?_of_stands h hs
  rw [checked?_eq] at this
  by_contra hne
  rw [if_neg hne] at this
  cases this

/-- The branches that a statement counts for: the arms of an `if`, the case labels of a switch and
the catch clauses of a try statement. -/
def branchCount (s : Statement) : Nat :=
  match s.kind with
  | .ifElse arms _ => arms.length
  | .switch caseCount .. => caseCount
  | .tryCatch catchCount .. => catchCount
  | .sequential | .loop .. | .block _ => 0

theorem points_eq (s : Statement) : s.points = s.branchCount + if s.isLoop then 1 else 0 := by
  obtain ⟨kind, span, depth, conditionals⟩ := s
  cases kind <;> rfl

theorem total_points (ss : List Statement) :
    total points ss = total branchCount ss + ss.countP isLoop := by
  rw [funext points_eq, total_add, total_eq_countP fun _ => rfl]

/-- **What a statement counts for by itself at the depth that it records.** -/
def recorded (config : Config) (s : Statement) : Tally := s.own config s.depth

section

variable (config : Config) (s : Statement)

theorem recorded_statements :
    (s.recorded config).statements = if !s.isBlock then 1 else 0 := by
  cases h : s.isBlock <;> simp [recorded, own, h]

theorem recorded_loops : (s.recorded config).loops = if s.isLoop then 1 else 0 := rfl

theorem recorded_branches : (s.recorded config).branches = s.branchCount := by
  obtain ⟨kind, span, depth, conditionals⟩ := s
  cases kind <;> rfl

theorem recorded_maxNesting :
    (s.recorded config).maxNesting = if s.isControl then s.depth + 1 else 0 := rfl

end

/-! ### The tally as a sum over all statements -/

section

variable {config : Config} {body : List Statement}

theorem ofStatement_eq_sum_within (h : RecordsDepths body) {around : List Statement}
    {s : Statement} (hs : Stands body around s) :
    ofStatement config (around.countP isControl) s =
      (s.within.map (recorded config)).sum := by
  -- what is nested in a statement stands in one statement more
  induction s using nested_induction generalizing around with
  | h s ih =>
    have hnested : ofStatements config (s.inside (around.countP isControl)) s.nested =
        ((s.nested.flatMap within).map (recorded config)).sum := by
      rw [inside_countP, ofStatements_eq_sum, List.map_flatMap, List.flatMap, List.sum_flatten,
        List.map_map]
      exact congrArg List.sum (List.map_congr_left fun t ht => ih t ht (.nested hs ht))
    rw [ofStatement_eq, hnested, within_eq, List.map_cons, List.sum_cons, recorded, h around s hs]

/-- **The tally of a body is the sum of what its statements count for** at the depths that they
record. -/
theorem ofStatements_eq_sum_allWithin (h : RecordsDepths body) :
    ofStatements config 0 body =
      ((allWithin body).map (recorded config)).sum := by
  rw [ofStatements_eq_sum, allWithin, List.map_flatMap, List.flatMap, List.sum_flatten,
    List.map_map]
  exact congrArg List.sum
    (List.map_congr_left fun s hs => ofStatement_eq_sum_within h (.top hs))

end

/-! ### The fields of the sum -/

section

variable (config : Config) (ss : List Statement)

theorem sum_recorded_statements :
    (ss.map (recorded config)).sum.statements = ss.countP fun s => !s.isBlock := by
  rw [sum_statements, List.map_map, ← total_eq_sum]
  exact total_eq_countP (recorded_statements config) ss

theorem sum_recorded_loops : (ss.map (recorded config)).sum.loops = ss.countP isLoop := by
  rw [sum_loops, List.map_map, ← total_eq_sum]
  exact total_eq_countP (recorded_loops config) ss

theorem sum_recorded_branches :
    (ss.map (recorded config)).sum.branches = total branchCount ss := by
  rw [sum_branches, List.map_map, ← total_eq_sum]
  exact total_congr fun s _ => recorded_branches config s

theorem sum_recorded_maxNesting_eq_zero (h : ∀ s ∈ ss, ¬s.isControl) :
    (ss.map (recorded config)).sum.maxNesting = 0 := by
  by_contra hne
  obtain ⟨t, ht, heq⟩ := exists_maxNesting_eq_sum hne
  obtain ⟨s, hs, rfl⟩ := List.mem_map.1 ht
  rw [recorded_maxNesting, if_neg (h s hs)] at heq
  exact hne heq.symm

theorem isGreatest_sum_recorded_maxNesting (h : ∃ s ∈ ss, s.isControl) :
    IsGreatest {k | ∃ s ∈ ss, s.isControl ∧ 1 + s.depth = k}
      (ss.map (recorded config)).sum.maxNesting := by
  have hle : ∀ s ∈ ss, s.isControl →
      1 + s.depth ≤ (ss.map (recorded config)).sum.maxNesting := by
    intro s hs hc
    have := maxNesting_le_sum (List.mem_map_of_mem (f := recorded config) hs)
    rw [recorded_maxNesting, if_pos hc] at this
    omega
  constructor
  · obtain ⟨s, hs, hc⟩ := h
    have hpos := hle s hs hc
    have hne : (ss.map (recorded config)).sum.maxNesting ≠ 0 := by omega
    obtain ⟨t, ht, heq⟩ := exists_maxNesting_eq_sum hne
    obtain ⟨r, hr, rfl⟩ := List.mem_map.1 ht
    rw [recorded_maxNesting] at heq
    split at heq
    · next hr' => exact ⟨r, hr, hr', by omega⟩
    · omega
  · rintro k ⟨s, hs, hc, rfl⟩
    exact hle s hs hc

end

end Statement

namespace StructuralUnit

open Statement

/-- **The metrics of a unit by enumeration.** If the statements of the unit record their depths, the
walk over them counts what a plain enumeration of them counts: the statements that are no blocks,
the loops, the branches, the decisions with what each option adds, and as nesting one more than the
greatest depth recorded by a control construct. The metrics report these numbers. -/
theorem metrics_enumerate (config : Config) {u : StructuralUnit} (h : RecordsDepths u.body) :
    (ofStatements config 0 u.body).statements =
        (allWithin u.body).countP (fun s => !s.isBlock) ∧
      (ofStatements config 0 u.body).loops = (allWithin u.body).countP isLoop ∧
      (ofStatements config 0 u.body).branches = total branchCount (allWithin u.body) ∧
      ((∀ s ∈ allWithin u.body, ¬s.isControl) →
        (ofStatements config 0 u.body).maxNesting = 0) ∧
      ((∃ s ∈ allWithin u.body, s.isControl) →
        IsGreatest {k | ∃ s ∈ allWithin u.body, s.isControl ∧ 1 + s.depth = k}
          (ofStatements config 0 u.body).maxNesting) ∧
      1 + (ofStatements config 0 u.body).decisions =
        1 + total branchCount (allWithin u.body) + (allWithin u.body).countP isLoop +
          (if config.countLogicalOperators then total logicalOperators (allWithin u.body) else 0) +
          (if config.countElseBranch then (allWithin u.body).countP hasElse else 0) +
          (if config.countDefaultLabel then (allWithin u.body).countP hasDefault else 0) +
          (if config.countConditionalExpressions then
            total conditionalExpressions (allWithin u.body) else 0) ∧
      (u.metrics config).Reports (ofStatements config 0 u.body) := by
  have hdecisions := decisions_ofStatements config 0 u.body
  rw [total_decisions, total_points] at hdecisions
  simp only [Tally.when] at hdecisions
  have hsum : ofStatements config 0 u.body = ((allWithin u.body).map (recorded config)).sum :=
    ofStatements_eq_sum_allWithin h
  refine ⟨?_, ?_, ?_, fun hnone => ?_, fun hsome => ?_, ?_, metrics_reports config u⟩
  · rw [hsum, sum_recorded_statements]
  · rw [hsum, sum_recorded_loops]
  · rw [hsum, sum_recorded_branches]
  · rw [hsum]
    exact sum_recorded_maxNesting_eq_zero config _ hnone
  · rw [hsum]
    exact isGreatest_sum_recorded_maxNesting config _ hsome
  · omega

/-- A try statement that counts a catch clause more than it has. -/
def overcounted : Statement := .mk (.tryCatch 2 [] [[.mk .sequential {} 1 0]]) {} 0 0

/-- A body with a loop in braces in an `if` that has a last alternative. -/
def mixedBody : List Statement := [
  .mk (.ifElse
    [.mk 1 [.mk (.block [.mk (.loop .whileLoop 0 [.mk .sequential {} 2 0]) {} 1 0]) {} 1 0]]
    (some [.mk .sequential {} 1 3])) {} 0 0,
  overcounted]

/-- The configuration that counts all but default labels. -/
def mixedConfig : Config :=
  { countLogicalOperators := true, countElseBranch := true, countConditionalExpressions := true }

/-- The loop of `mixedBody` is the deepest of its control constructs, the braces around it counting
for nothing, and each option adds its own part. -/
theorem metrics_enumerate_mixed :
    RecordsDepths mixedBody ∧
      (ofStatements mixedConfig 0 mixedBody).statements = 6 ∧
      IsGreatest {k | ∃ s ∈ allWithin mixedBody, s.isControl ∧ 1 + s.depth = k}
        (ofStatements mixedConfig 0 mixedBody).maxNesting ∧
      ((unitOf mixedBody 0).metrics mixedConfig).cyclomatic.toNat = 10 := by
  have hchecked : (checkedAll? {} 0 mixedBody).isSome := by cbv
  have hdepths : RecordsDepths mixedBody := recordsDepths_of_checkedAll? hchecked
  have hcount : (allWithin mixedBody).countP (fun s => !s.isBlock) = 6 := by cbv
  have hcontrol : overcounted ∈ allWithin mixedBody := by
    refine List.mem_flatMap.2 ⟨overcounted, by simp [mixedBody], ?_⟩
    rw [within_eq]
    exact List.mem_cons_self
  obtain ⟨hstatements, -, -, -, hnesting, hdecisions, hreports⟩ :=
    metrics_enumerate mixedConfig (u := unitOf mixedBody 0) hdepths
  have hten : 1 + (ofStatements mixedConfig 0 mixedBody).decisions = 10 :=
    hdecisions.trans (by cbv)
  refine ⟨hdepths, hstatements.trans hcount, hnesting ⟨overcounted, hcontrol, rfl⟩, ?_⟩
  exact (hreports.cyclomatic (lt_of_eq_of_lt hten (by decide))).trans hten

end StructuralUnit

end CodeMetrics
