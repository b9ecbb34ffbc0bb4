import CodeMetrics.Proofs.Metrics.Contribution
import Mathlib

/-!
# Metrics count visited nodes

The metrics of a unit are read off its statements. This file says what they are as counts over the
tree that the statements were built from: over the nodes met while the body is built, those of
merged lambdas included (`Build.visited`).

Every count but the nesting is a sum over the visited nodes. The nesting is the greatest number of
control constructs on a path of visits (`Build.Visit.controlsAlong`), where a ladder counts once,
and a construct does not count for the lambdas in its header.
-/

namespace CodeMetrics.Build

open Cst Tally

/-- **The nodes visited from a body on**, without the lambdas themselves. -/
def visited (n : Node) : List Visit := (Visit.start n).visits.filter fun v => v.position ≠ .lambda

namespace Visit

/-! ### What is counted -/

/-- A loop. -/
def isLoop (v : Visit) : Bool := v.node.kind ∈ [.forLoop, .rangeFor, .whileLoop, .doLoop]

/-- An `if`, the further members of a ladder included. -/
def isIf (v : Visit) : Bool := v.node.kind = .ifStatement

/-- A case label with a value. -/
def isValueCase (v : Visit) : Bool :=
  v.node.kind = .case && (v.node.childWithRole? .value).isSome

/-- The catch clauses of a try statement. -/
def catches (v : Visit) : List Node :=
  if v.node.kind = .tryStatement then v.node.childrenOfKind .catchClause else []

/-- A statement, a ladder being one. -/
def isCounted (v : Visit) : Bool :=
  v.node.kind ∉ [.directive, .compound, .conditionalGroup, .labeled, .case] && v.position ≠ .rung

/-- A control construct. -/
def isControl (v : Visit) : Bool :=
  v.isLoop || v.node.kind ∈ [.ifStatement, .switch, .tryStatement]

/-- Whether a control construct encloses what it leads to: not the lambdas in its header, and not
the next member of a ladder, which is the same construct. -/
def encloses (v w : Visit) : Bool := v.isControl && w.position ∉ [.lambda, .rung]

/-- The number of control constructs on a path of visits, its end included. -/
def controlsAlong (v : Visit) : List Visit → Nat
  | [] => if v.isControl then 1 else 0
  | w :: path => (if v.encloses w then 1 else 0) + w.controlsAlong path

/-- A path: each visit leads to the following one. -/
abbrev IsPath (v : Visit) (path : List Visit) : Prop :=
  List.IsChain (fun u w => w ∈ u.next) (v :: path)

/-! ### What a visit leads to, by depth -/

/-- The kind of a node in a position that only one kind of node has. -/
structure Proper (v : Visit) : Prop where
  rung : v.position = .rung → v.node.kind = .ifStatement
  lambda : v.position = .lambda → v.node.kind = .lambda

theorem Leads.proper {v w : Visit} (h : v.Leads w) : w.Proper := by
  cases h <;> constructor <;> simp_all [beside, below]

theorem proper_start (n : Node) : (start n).Proper := by
  constructor <;> simp [start]

theorem proper_of_mem_visits {v w : Visit} (hv : v.Proper) (h : w ∈ v.visits) : w.Proper := by
  induction v using visits.induct with
  | case1 v ih =>
    rw [visits_eq] at h
    rcases List.mem_cons.1 h with rfl | h
    · exact hv
    · obtain ⟨u, hu, hw⟩ := List.mem_flatMap.1 h
      exact ih ⟨u, hu⟩ (leads_of_mem_next hu).proper hw

theorem isControl_iff {v : Visit} (hv : v.Proper) : v.isControl ↔ v.construct ∈ controls := by
  by_cases hp : v.position = .lambda
  · simp [construct, isControl, isLoop, controls, hp, hv.lambda hp]
  · rw [construct_of_position hp]
    cases hk : v.node.kind <;> simp [isControl, isLoop, controls, Construct.ofKind, hk]

/-- **A step goes one deeper exactly if it goes into a control construct.** -/
theorem Leads.depth_eq {v w : Visit} (hv : v.Proper) (h : v.Leads w) :
    w.depth = v.depth + if v.encloses w then 1 else 0 := by
  have hcontrol := isControl_iff hv
  cases h with
  | enclosed hn hc hp => simp [encloses, hcontrol.2 hc, below, hp]
  | rung hn hk => simp [encloses, beside]
  | lambda hn hk => simp [encloses, beside]
  | part hn hc hp => simp [encloses, mt hcontrol.1 hc]

/-! ### Paths -/

theorem exists_path_of_mem_visits {v w : Visit} (h : w ∈ v.visits) :
    ∃ path, v.IsPath path ∧ (v :: path).getLast (by simp) = w := by
  induction v using visits.induct with
  | case1 v ih =>
    rw [visits_eq] at h
    rcases List.mem_cons.1 h with rfl | h
    · exact ⟨[], by simp, rfl⟩
    · obtain ⟨u, hu, hw⟩ := List.mem_flatMap.1 h
      obtain ⟨path, hpath, hlast⟩ := ih ⟨u, hu⟩ hw
      exact ⟨u :: path, hpath.cons_cons hu, by rw [List.getLast_cons (by simp), hlast]⟩

/-- The control constructs on a path are those around its end, and the end. -/
theorem depth_add_controlsAlong {v : Visit} {path : List Visit} (hv : v.Proper)
    (h : v.IsPath path) :
    v.depth + v.controlsAlong path = ((v :: path).getLast (by simp)).depth +
      if ((v :: path).getLast (by simp)).isControl then 1 else 0 := by
  induction path generalizing v with
  | nil => rfl
  | cons w path ih =>
    obtain ⟨hw, hpath⟩ := List.isChain_cons_cons.1 h
    have hd := (leads_of_mem_next hw).depth_eq hv
    rw [List.getLast_cons (by simp), ← ih (leads_of_mem_next hw).proper hpath, hd, controlsAlong,
      Nat.add_assoc]

/-- A path goes no deeper than the control constructs that are visited. -/
theorem depth_add_controlsAlong_le {v : Visit} {path : List Visit} {m : Nat} (hv : v.Proper)
    (h : v.IsPath path) (hm : ∀ w ∈ v.visits, w.isControl → w.depth + 1 ≤ m) :
    v.depth + v.controlsAlong path ≤ max v.depth m := by
  induction path generalizing v with
  | nil =>
    rw [controlsAlong]
    by_cases hc : v.isControl
    · rw [if_pos hc]
      exact (hm v v.mem_visits_self hc).trans (Nat.le_max_right _ _)
    · rw [if_neg hc]
      exact Nat.le_max_left _ _
  | cons w path ih =>
    obtain ⟨hw, hpath⟩ := List.isChain_cons_cons.1 h
    have hd := (leads_of_mem_next hw).depth_eq hv
    have hle := ih (leads_of_mem_next hw).proper hpath fun u hu =>
      hm u (by rw [visits_eq]; exact List.mem_cons_of_mem v (List.mem_flatMap.2 ⟨w, hw, hu⟩))
    rw [controlsAlong]
    by_cases he : v.encloses w
    · have hc := hm v v.mem_visits_self (by simp_all [encloses])
      rw [if_pos he] at hd ⊢
      omega
    · rw [if_neg he] at hd ⊢
      omega

/-! ### The fields of a contribution -/

section Fields

variable (config : Config) {v : Visit}

theorem own_of_lambda (hp : v.position = .lambda) : v.own config = 0 := by
  simp [own, construct, hp]

theorem own_loops (hp : v.position ≠ .lambda) :
    (v.own config).loops = if v.isLoop then 1 else 0 := by
  unfold own isLoop
  rw [construct_of_position hp]
  cases hk : v.node.kind <;>
    simp [Construct.ofKind, Tally.control, armTally, elseTally, caseLabel, CaseLabels.tally]

theorem own_branches (hp : v.position ≠ .lambda) :
    (v.own config).branches =
      (if v.isIf then 1 else 0) + (if v.isValueCase then 1 else 0) + v.catches.length := by
  unfold own isIf isValueCase catches
  rw [construct_of_position hp]
  cases hk : v.node.kind <;>
    simp [Construct.ofKind, Tally.control, armTally, elseTally, CaseLabels.tally, caseLabel,
      handlers]
  split <;> rfl

theorem own_statements (hv : v.Proper) (ho : ∀ e, ¬v.Offends e) (hp : v.position ≠ .lambda) :
    (v.own config).statements = if v.isCounted then 1 else 0 := by
  have hc : v.construct ≠ .clause := fun hc => ho _ (HasFault.misplacedClause hc).offends
  have hr : v.position = .rung → v.node.kind = .ifStatement := hv.rung
  unfold own isCounted
  rw [construct_of_position hp] at hc ⊢
  cases hk : v.node.kind <;>
    simp_all [Construct.ofKind, Tally.control, armTally, elseTally, CaseLabels.tally]

theorem own_maxNesting (hv : v.Proper) :
    (v.own config).maxNesting = if v.isControl then v.depth + 1 else 0 := by
  have hcontrol := isControl_iff hv
  unfold own
  cases hc : v.construct <;>
    simp_all [controls, Tally.control, armTally, elseTally, CaseLabels.tally]

/-- With nothing more to count, the decisions are the branches and the loops. -/
theorem own_decisions (hl : config.countLogicalOperators = false)
    (hd : config.countDefaultLabel = false) (he : config.countElseBranch = false)
    (hc : config.countConditionalExpressions = false) :
    (v.own config).decisions = (v.own config).branches + (v.own config).loops := by
  unfold own
  cases v.construct <;>
    simp [Tally.control, armTally, elseTally, CaseLabels.tally, Tally.when, hl, hd, he, hc]

end Fields

/-- **The nesting that is counted is that of the paths.** -/
theorem isGreatest_controlsAlong (config : Config) (n : Node) :
    IsGreatest {k | ∃ path, (start n).IsPath path ∧ (start n).controlsAlong path = k}
      ((start n).visits.map (own config)).sum.maxNesting := by
  have hown : ∀ v ∈ (start n).visits,
      (v.own config).maxNesting = if v.isControl then v.depth + 1 else 0 := fun v hv =>
    own_maxNesting config (proper_of_mem_visits (proper_start n) hv)
  constructor
  -- it is reached: by the body alone if it is zero, else by a path to a construct that has it
  · by_cases h0 : ((start n).visits.map (own config)).sum.maxNesting = 0
    · have hle := maxNesting_le_sum
        (List.mem_map_of_mem (f := own config) (start n).mem_visits_self)
      have hc : ¬(start n).isControl := fun hc => by
        rw [hown _ (start n).mem_visits_self, if_pos hc] at hle
        omega
      exact ⟨[], by simp, by rw [h0, controlsAlong, if_neg hc]⟩
    · obtain ⟨t, ht, heq⟩ := exists_maxNesting_eq_sum h0
      obtain ⟨v, hv, rfl⟩ := List.mem_map.1 ht
      obtain ⟨path, hpath, hlast⟩ := exists_path_of_mem_visits hv
      have hsum := depth_add_controlsAlong (proper_start n) hpath
      refine ⟨path, hpath, ?_⟩
      rw [← heq] at h0 ⊢
      rw [hown v hv] at h0 ⊢
      have hc : v.isControl := by
        by_contra hc
        exact h0 (if_neg hc)
      rw [hlast, if_pos hc, show (start n).depth = 0 from rfl, Nat.zero_add] at hsum
      rw [hsum, if_pos hc]
  -- and no path has more
  · rintro k ⟨path, hpath, rfl⟩
    have hle := depth_add_controlsAlong_le (proper_start n) hpath (m :=
      ((start n).visits.map (own config)).sum.maxNesting) fun v hv hc => by
        have := maxNesting_le_sum (List.mem_map_of_mem (f := own config) hv)
        rwa [hown v hv, if_pos hc] at this
    simpa [start] using hle

end Visit

/-! ### Counts over the visited nodes -/

open Visit

theorem sum_own_eq (config : Config) (n : Node) :
    ((start n).visits.map (own config)).sum = ((visited n).map (own config)).sum := by
  unfold visited
  induction (start n).visits with
  | nil => rfl
  | cons v vs ih =>
    by_cases hp : v.position = .lambda
    · simp [hp, ih, own_of_lambda config hp]
    · simp [hp, ih]

theorem sum_map_eq_countP {vs : List Visit} {f : Visit → Nat} {p : Visit → Bool}
    (h : ∀ v ∈ vs, f v = if p v then 1 else 0) : (vs.map f).sum = vs.countP p := by
  induction vs with
  | nil => rfl
  | cons v vs ih =>
    rw [List.map_cons, List.sum_cons, List.countP_cons, h v List.mem_cons_self,
      ih fun u hu => h u (List.mem_cons_of_mem v hu), Nat.add_comm]

/-- The branches among visits: the arms of ladders, the case labels with a value, and the catch
clauses of try statements. -/
def branchCount (vs : List Visit) : Nat :=
  vs.countP isIf + vs.countP isValueCase + (vs.map fun v => v.catches.length).sum

/-- **The metrics of a unit are counts over the nodes visited in its body.** -/
theorem metrics_count_visited (config : Config) {n : Node} {u : StructuralUnit} {lambdas : Nat}
    (h : ofBody n = .ok (u.body, lambdas)) :
    (u.metrics config).loops = .ofNat ((visited n).countP isLoop) ∧
      (u.metrics config).branches = .ofNat (branchCount (visited n)) ∧
      (u.metrics config).statements = .ofNat ((visited n).countP isCounted) ∧
      (∃ m, IsGreatest {k | ∃ path, (start n).IsPath path ∧ (start n).controlsAlong path = k} m ∧
        (u.metrics config).maxNesting = .ofNat m) ∧
      (config.countLogicalOperators = false → config.countDefaultLabel = false →
        config.countElseBranch = false → config.countConditionalExpressions = false →
        (u.metrics config).cyclomatic =
          .ofNat (1 + branchCount (visited n) + (visited n).countP isLoop)) := by
  obtain ⟨hbody, -, hfaults⟩ := ofBody_eq_ok h
  have htally : ofStatements config 0 u.body = ((start n).visits.map (own config)).sum := by
    rw [← tally_eq_sum config hfaults, hbody]
    rfl
  have hnesting := isGreatest_controlsAlong config n
  rw [sum_own_eq] at htally hnesting
  have hmem : ∀ v ∈ visited n, v.position ≠ .lambda ∧ v.Proper ∧ ∀ e, ¬v.Offends e := by
    intro v hv
    obtain ⟨hv, hp⟩ := List.mem_filter.1 hv
    exact ⟨by simpa using hp, proper_of_mem_visits (proper_start n) hv,
      fun e he => hfaults e ⟨v, hv, he⟩⟩
  have hloops : (ofStatements config 0 u.body).loops = (visited n).countP isLoop := by
    rw [htally, sum_loops, List.map_map]
    exact sum_map_eq_countP fun v hv => own_loops config (hmem v hv).1
  have hbranches : (ofStatements config 0 u.body).branches = branchCount (visited n) := by
    rw [htally, sum_branches, List.map_map, branchCount,
      ← sum_map_eq_countP (p := isIf) fun _ _ => rfl,
      ← sum_map_eq_countP (p := isValueCase) fun _ _ => rfl, ← List.sum_map_add, ← List.sum_map_add]
    exact congrArg List.sum (List.map_congr_left fun v hv => own_branches config (hmem v hv).1)
  have hstatements : (ofStatements config 0 u.body).statements = (visited n).countP isCounted := by
    rw [htally, sum_statements, List.map_map]
    exact sum_map_eq_countP fun v hv =>
      own_statements config (hmem v hv).2.1 (hmem v hv).2.2 (hmem v hv).1
  refine ⟨congrArg UInt32.ofNat hloops, congrArg UInt32.ofNat hbranches,
    congrArg UInt64.ofNat hstatements,
    ⟨_, hnesting, congrArg (fun t : Tally => UInt32.ofNat t.maxNesting) htally⟩, ?_⟩
  intro hl hd he hc
  have hdecisions : (ofStatements config 0 u.body).decisions =
      branchCount (visited n) + (visited n).countP isLoop := by
    rw [← hloops, ← hbranches, htally, sum_decisions, sum_branches, sum_loops, List.map_map,
      List.map_map, List.map_map, ← List.sum_map_add]
    exact congrArg List.sum (List.map_congr_left fun v _ => own_decisions config hl hd he hc)
  rw [Nat.add_assoc, ← hdecisions]
  rfl

/-- A ladder of two arms: a loop with a lambda in its header, and nothing. -/
def ladderBody : Node :=
  .bare .compound none [
    .bare .ifStatement none [
      .bare .forLoop (some .consequence) [
        .bare .other none [
          .bare .lambda none [.bare .compound (some .body) [.bare .other none []]]],
        .bare .compound (some .body) []],
      .bare .elseClause (some .alternative) [
        .bare .ifStatement none [.bare .compound (some .consequence) []]]]]

/-- The unit with `ladderBody` as its body. -/
def ladderUnit : StructuralUnit where
  name := "f"
  kind := .function
  parameterCount := 0
  body := [
    .mk (.ifElse [
      .mk 0 [.mk (.block [.mk .sequential {} 1 0]) {} 1 0, .mk (.loop .forLoop 0 []) {} 1 0],
      .mk 0 []] none) {} 0 0]
  span := {}
  enclosingType := none
  lambdaCount := 1
  realLines := 0

/-- The lambda counts one statement, and as deep as the loop it stands before. -/
theorem metrics_count_visited_ladder :
    ofBody ladderBody = .ok (ladderUnit.body, 1) ∧ (ladderUnit.metrics {}).loops = 1 ∧
      (ladderUnit.metrics {}).branches = 2 ∧ (ladderUnit.metrics {}).statements = 3 ∧
      (∃ m, IsGreatest {k | ∃ path, (start ladderBody).IsPath path ∧
        (start ladderBody).controlsAlong path = k} m ∧
        (ladderUnit.metrics {}).maxNesting = .ofNat m) ∧
      (ladderUnit.metrics {}).cyclomatic = 4 := by
  have hl : (visited ladderBody).countP isLoop = 1 := by cbv
  have hb : branchCount (visited ladderBody) = 2 := by cbv
  have hs : (visited ladderBody).countP isCounted = 3 := by cbv
  have h : ofBody ladderBody = .ok (ladderUnit.body, 1) := by cbv
  obtain ⟨hloops, hbranches, hstatements, hnesting, hcyclomatic⟩ := metrics_count_visited {} h
  rw [hl] at hloops
  rw [hb] at hbranches
  rw [hs] at hstatements
  rw [hb, hl] at hcyclomatic
  exact ⟨h, hloops, hbranches, hstatements, hnesting, hcyclomatic rfl rfl rfl rfl⟩

end CodeMetrics.Build
