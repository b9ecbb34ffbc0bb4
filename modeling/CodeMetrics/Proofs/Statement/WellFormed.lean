import CodeMetrics.Proofs.Cst.Spans
import CodeMetrics.Proofs.Metrics.Statements
import CodeMetrics.Proofs.StructuralUnit.Bodies

/-!
# Statements are well formed

A statement records its depth, and the metrics are taken at the depths at which they come to
statements. This file says that the two agree in every unit of every model, together with what else
holds of all statements: an `if` has an arm, the catch clauses that are counted are those that are
there, and a statement lies in the span of the one it is nested in if the nodes of the tree do.

Everything follows from one lemma about a single visit, `Build.Visit.mem_statements`: a statement of
a visit is either passed on from a visit below it at the same depth, as lambdas are and what stands
in braces, or it is the statement of the visited node. Then it has the depth and the span of the
visit, and everything nested in it comes from visits below at the depth inside it.

`Statement.Stands` says where a statement stands in a body, with the statements around it, so that
its depth can be compared with the number of control constructs among those. `Statement.checked?` is
the tally that gives up at a statement that records another depth than the one it is come to at.
-/

namespace CodeMetrics

open Cst

namespace Statement

/-- **Where a statement stands** in a body: in which statements, innermost first. -/
inductive Stands (body : List Statement) : List Statement → Statement → Prop
  | top {s : Statement} (h : s ∈ body) : Stands body [] s
  | nested {around : List Statement} {t s : Statement} (ht : Stands body around t)
      (h : s ∈ t.nested) : Stands body (t :: around) s

/-- What holds of each sort of statement by itself. -/
def IsShaped (s : Statement) : Prop :=
  match s.kind with
  | .ifElse arms _ => arms ≠ []
  | .tryCatch catchCount _ handlers =>
    catchCount = handlers.length ∧ s.conditionalExpressions = 0
  | .block _ => s.conditionalExpressions = 0
  | .sequential | .loop .. | .switch .. => True

/-- **A statement that is well formed at a depth**: it records the depth and is shaped, and so is
everything in it. -/
inductive WellFormed : Nat → Statement → Prop
  | intro {d : Nat} {s : Statement} (depth : s.depth = d) (shaped : s.IsShaped)
      (nested : ∀ t ∈ s.nested, WellFormed (s.inside d) t) : WellFormed d s

/-- Everything in a statement lies in the span of what it is nested in. -/
inductive Covers : Statement → Prop
  | intro {s : Statement} (contains : ∀ t ∈ s.nested, s.span.contains t.span)
      (nested : ∀ t ∈ s.nested, Covers t) : Covers s

namespace WellFormed

variable {d : Nat} {s : Statement}

theorem depth_eq (h : WellFormed d s) : s.depth = d := by
  cases h
  assumption

theorem isShaped (h : WellFormed d s) : s.IsShaped := by
  cases h
  assumption

theorem of_mem_nested {t : Statement} (h : WellFormed d s) (ht : t ∈ s.nested) :
    WellFormed (s.inside d) t := by
  cases h with
  | intro _ _ nested => exact nested t ht

end WellFormed

theorem Stands.wellFormed {body around : List Statement} {s : Statement}
    (hbody : ∀ t ∈ body, WellFormed 0 t) (h : Stands body around s) :
    WellFormed (around.countP isControl) s := by
  induction h with
  | top h => exact hbody _ h
  | @nested around t s ht h ih =>
    have := ih.of_mem_nested h
    rw [inside] at this
    rw [List.countP_cons]
    split at this <;> simp_all

theorem Stands.covers {body around : List Statement} {s : Statement}
    (hbody : ∀ t ∈ body, Covers t) (h : Stands body around s) : Covers s := by
  induction h with
  | top h => exact hbody _ h
  | nested ht h ih =>
    cases ih with
    | intro _ nested => exact nested _ h

/-! ### Tallies that check depths -/

section Checked

/-- **The tally of a statement at a depth that gives up** where a statement records another depth
than the one it is come to at. -/
def checked? (config : Config) (depth : Nat) (s : Statement) : Option Tally :=
  if s.depth = depth then
    Option.map (fun ts => s.own config depth + ts.sum)
      (s.nested.attach.mapM fun (t : { t // t ∈ s.nested }) =>
        t.1.checked? config (s.inside depth))
  else none
termination_by sizeOf s
decreasing_by exact sizeOf_lt_of_mem_nested t.2

/-- The tally of a list of statements that gives up where a statement records another depth. -/
def checkedAll? (config : Config) (depth : Nat) (ss : List Statement) : Option Tally :=
  Option.map List.sum (ss.mapM (checked? config depth))

variable {config : Config}

theorem checked?_eq (depth : Nat) (s : Statement) :
    s.checked? config depth =
      if s.depth = depth then
        Option.map (fun ts => s.own config depth + ts.sum)
          (s.nested.mapM (checked? config (s.inside depth)))
      else none := by
  rw [checked?]
  simp

theorem mapM_checked? {depth : Nat} {ss : List Statement}
    (h : ∀ s ∈ ss, s.checked? config depth = some (Tally.ofStatement config depth s)) :
    ss.mapM (checked? config depth) = some (ss.map (Tally.ofStatement config depth)) := by
  induction ss with
  | nil => rfl
  | cons s ss ih =>
    rw [List.mapM_cons, h s List.mem_cons_self, ih fun t ht => h t (List.mem_cons_of_mem s ht)]
    rfl

theorem WellFormed.checked?_eq_some {depth : Nat} {s : Statement} (h : WellFormed depth s) :
    s.checked? config depth = some (Tally.ofStatement config depth s) := by
  induction h with
  | @intro d s hd _ _ ih =>
    rw [checked?_eq, if_pos hd, mapM_checked? ih, ofStatement_eq, ofStatements_eq_sum]
    rfl

theorem checkedAll?_eq_some {depth : Nat} {ss : List Statement}
    (h : ∀ s ∈ ss, WellFormed depth s) :
    checkedAll? config depth ss = some (Tally.ofStatements config depth ss) := by
  rw [checkedAll?, mapM_checked? fun s hs => (h s hs).checked?_eq_some, ofStatements_eq_sum]
  rfl

end Checked

end Statement

namespace Build.Visit

open Statement

/-! ### The statements of one visit -/

/-- Whether a statement comes from a visit below at a depth. -/
def Passes (v : Visit) (depth : Nat) (s : Statement) : Prop :=
  ∃ w : Visit, w.node ∈ v.node.nodesBelow ∧ w.depth = depth ∧ s ∈ w.statements

theorem passes_of_mem_flatMap {v : Visit} {d : Nat} {ws : List Visit} {s : Statement}
    (hws : ∀ w ∈ ws, w.node ∈ v.node.nodesBelow ∧ w.depth = d) (h : s ∈ ws.flatMap statements) :
    v.Passes d s := by
  obtain ⟨w, hw, hs⟩ := List.mem_flatMap.1 h
  exact ⟨w, (hws w hw).1, (hws w hw).2, hs⟩

theorem depth_of_mem_next {v w : Visit} (hc : v.construct ∉ controls) (h : w ∈ v.next) :
    w.depth = v.depth := by
  cases leads_of_mem_next h with
  | enclosed _ hcontrol _ => exact absurd hcontrol hc
  | rung | lambda | part => rfl

theorem passes_of_mem_next {v : Visit} {s : Statement} (hc : v.construct ∉ controls)
    (h : s ∈ v.next.flatMap statements) : v.Passes v.depth s :=
  passes_of_mem_flatMap (fun _ hw => ⟨mem_nodesBelow_of_mem_next hw, depth_of_mem_next hc hw⟩) h

theorem passes_of_mem_conditionLambdas {v : Visit} {s : Statement}
    (h : s ∈ v.conditionLambdas.flatMap statements) : v.Passes v.depth s := by
  refine passes_of_mem_flatMap (fun w hw => ⟨mem_nodesBelow_of_mem_conditionLambdas hw, ?_⟩) h
  obtain ⟨c, -, hw⟩ := List.mem_flatMap.1 hw
  obtain ⟨l, -, rfl⟩ := List.mem_map.1 hw
  rfl

theorem passes_of_mem_enclosed {v : Visit} {role : Role} {s : Statement}
    (h : s ∈ (v.enclosed v.node role).flatMap statements) : v.Passes (v.depth + 1) s := by
  refine passes_of_mem_flatMap (fun w hw => ⟨mem_nodesBelow_of_mem_enclosed hw, ?_⟩) h
  obtain ⟨c, -, rfl⟩ := List.mem_map.1 hw
  rfl

/-- What comes from the visit of a further `if` of the ladder comes from the ladder. -/
theorem Passes.of_mem_rungs {v r : Visit} {d : Nat} {s : Statement} (hr : r ∈ v.rungs)
    (h : r.Passes d s) : v.Passes d s := by
  obtain ⟨w, hw, hd, hs⟩ := h
  exact ⟨w, nodesBelow_subset_of_mem_rungs hr hw, hd, hs⟩

/-- **The statement of the visited node itself**: its depth and its span are those of the visit,
and what is nested in it comes from visits below. -/
structure IsOwn (v : Visit) (s : Statement) : Prop where
  depth : s.depth = v.depth
  span : s.span = v.node.span
  shaped : s.IsShaped
  nested : ∀ t ∈ s.nested, v.Passes (s.inside v.depth) t

theorem isOwn_block {v : Visit} (hc : v.construct ∉ controls) :
    v.IsOwn (block v.node v.depth (v.next.flatMap statements)) where
  depth := rfl
  span := rfl
  shaped := rfl
  nested _ ht := passes_of_mem_next hc ht

theorem mem_statements_of_ifElse {v : Visit} {s : Statement} (hc : v.construct = .ifElse)
    (h : s ∈ v.statements) : v.Passes v.depth s ∨ v.IsOwn s := by
  have hdepth : ∀ r ∈ v.rungs, r.depth = v.depth := fun r hr => by
    obtain ⟨m, -, rfl⟩ := List.mem_map.1 hr
    rfl
  rw [statements_eq] at h
  simp only [statementsWith, hc, List.mem_append, List.mem_singleton] at h
  rcases h with h | rfl
  -- the lambdas of the conditions
  · rw [List.flatMap_map] at h
    obtain ⟨r, hr, h⟩ := List.mem_flatMap.1 h
    have := passes_of_mem_conditionLambdas h
    rw [hdepth r hr] at this
    exact Or.inl (this.of_mem_rungs hr)
  · refine Or.inr ⟨rfl, rfl, by simp [IsShaped, kind, rungs], fun t ht => ?_⟩
    rcases List.mem_append.1 ht with ht | ht
    · rw [List.map_map, List.flatMap_map] at ht
      obtain ⟨r, hr, ht⟩ := List.mem_flatMap.1 ht
      have := passes_of_mem_enclosed ht
      rw [hdepth r hr] at this
      exact this.of_mem_rungs hr
    · cases ho : v.otherwise? with
      | none => simp [ho] at ht
      | some w =>
        rw [ho] at ht
        refine ⟨w, mem_nodesBelow_of_otherwise? ho, ?_, ht⟩
        rw [otherwise?] at ho
        cases he : (ladder v.node).2 <;> rw [he] at ho <;> cases ho
        rfl

theorem mem_statements_of_loop {v : Visit} {s : Statement} (hc : v.construct = .loop)
    (h : s ∈ v.statements) : v.Passes v.depth s ∨ v.IsOwn s := by
  rw [statements_eq] at h
  simp only [statementsWith, hc, List.mem_append, List.mem_singleton] at h
  rcases h with h | rfl
  · refine Or.inl (passes_of_mem_flatMap (fun w hw => ⟨mem_nodesBelow_of_mem_headers hw, ?_⟩) h)
    obtain ⟨c, -, hw⟩ := List.mem_flatMap.1 hw
    obtain ⟨l, -, rfl⟩ := List.mem_map.1 hw
    rfl
  · exact Or.inr ⟨rfl, rfl, trivial, fun t ht => passes_of_mem_enclosed ht⟩

theorem mem_statements_of_switch {v : Visit} {s : Statement} (hc : v.construct = .switch)
    (h : s ∈ v.statements) : v.Passes v.depth s ∨ v.IsOwn s := by
  rw [statements_eq] at h
  simp only [statementsWith, hc, List.mem_append, List.mem_singleton] at h
  rcases h with h | rfl
  · exact Or.inl (passes_of_mem_conditionLambdas h)
  · refine Or.inr ⟨rfl, rfl, trivial, fun t ht => ?_⟩
    refine passes_of_mem_flatMap (fun w hw => ⟨mem_nodesBelow_of_mem_items hw, ?_⟩) ht
    obtain ⟨b, -, hw⟩ := List.mem_flatMap.1 hw
    obtain ⟨c, -, rfl⟩ := List.mem_map.1 hw
    rfl

theorem mem_statements_of_tryCatch {v : Visit} {s : Statement} (hc : v.construct = .tryCatch)
    (h : s ∈ v.statements) : v.IsOwn s := by
  rw [statements_eq] at h
  simp only [statementsWith, hc, List.mem_singleton] at h
  subst h
  refine ⟨rfl, rfl, by simp [IsShaped, kind, Statement.conditionalExpressions], fun t ht => ?_⟩
  rcases List.mem_append.1 ht with ht | ht
  · exact passes_of_mem_enclosed ht
  · rw [← List.flatMap_def] at ht
    obtain ⟨ws, hws, ht⟩ := List.mem_flatMap.1 ht
    refine passes_of_mem_flatMap (fun w hw =>
      ⟨mem_nodesBelow_of_mem_handlers (List.mem_flatten.2 ⟨ws, hws, hw⟩), ?_⟩) ht
    obtain ⟨c, -, rfl⟩ := List.mem_map.1 hws
    obtain ⟨b, -, rfl⟩ := List.mem_map.1 hw
    rfl

/-- **What a statement of a visit is**: passed on from a visit below at the same depth, or the
statement of the visited node. -/
theorem mem_statements {v : Visit} {s : Statement} (h : s ∈ v.statements) :
    v.Passes v.depth s ∨ v.IsOwn s := by
  cases hc : v.construct
  case ifElse => exact mem_statements_of_ifElse hc h
  case loop => exact mem_statements_of_loop hc h
  case switch => exact mem_statements_of_switch hc h
  case tryCatch => exact Or.inr (mem_statements_of_tryCatch hc h)
  all_goals
    rw [statements_eq] at h
    simp only [statementsWith, hc] at h
    have hcontrol : v.construct ∉ controls := by simp [hc, controls]
  case directive | clause => cases h
  case lambda | group =>
    obtain rfl := List.mem_singleton.1 h
    exact Or.inr (isOwn_block hcontrol)
  case braces =>
    split at h
    · exact Or.inl (passes_of_mem_next hcontrol h)
    · obtain rfl := List.mem_singleton.1 h
      exact Or.inr (isOwn_block hcontrol)
  case labeled | case => exact Or.inl (passes_of_mem_next hcontrol h)
  case plain =>
    rcases List.mem_cons.1 h with rfl | h
    · exact Or.inr ⟨rfl, rfl, trivial, fun t ht => by cases ht⟩
    · exact Or.inl (passes_of_mem_next hcontrol h)

/-! ### All visits -/

/-- **Every statement of a visit is well formed** at the depth of the visit. -/
theorem wellFormed_of_mem_statements {v : Visit} {s : Statement} (h : s ∈ v.statements) :
    WellFormed v.depth s := by
  rcases mem_statements h with ⟨w, hw, hd, hs⟩ | hown
  · rw [← hd]
    exact wellFormed_of_mem_statements hs
  · refine .intro hown.depth hown.shaped fun t ht => ?_
    obtain ⟨w, hw, hd, ht⟩ := hown.nested t ht
    rw [← hd]
    exact wellFormed_of_mem_statements ht
termination_by v.node.size
decreasing_by all_goals exact Node.size_lt_of_mem_nodesBelow hw

/-- **Every statement of a visit lies in the visited node**, if the spans of the nodes nest, and
covers what is nested in it. -/
theorem covers_of_mem_statements {v : Visit} {s : Statement} (hv : v.node.SpansNest)
    (h : s ∈ v.statements) : v.node.span.contains s.span ∧ Covers s := by
  rcases mem_statements h with ⟨w, hw, -, hs⟩ | hown
  · have hle := hv.contains_of_mem_nodesBelow hw
    obtain ⟨hspan, hcovers⟩ := covers_of_mem_statements (hv.of_mem_nodesBelow hw) hs
    exact ⟨Span.contains_trans hle hspan, hcovers⟩
  · have hnested : ∀ t ∈ s.nested, s.span.contains t.span ∧ Covers t := fun t ht => by
      obtain ⟨w, hw, -, ht⟩ := hown.nested t ht
      have hle := hv.contains_of_mem_nodesBelow hw
      obtain ⟨hspan, hcovers⟩ := covers_of_mem_statements (hv.of_mem_nodesBelow hw) ht
      exact ⟨hown.span ▸ Span.contains_trans hle hspan, hcovers⟩
    exact ⟨by simp [hown.span, Span.contains],
      .intro (fun t ht => (hnested t ht).1) fun t ht => (hnested t ht).2⟩
termination_by v.node.size
decreasing_by all_goals exact Node.size_lt_of_mem_nodesBelow hw

end Build.Visit

/-! ### Units -/

namespace StructuralUnit.Place

open Statement Build.Visit

variable {p : Place} {u : StructuralUnit}

theorem HasBody.wellFormed (h : p.HasBody u) : ∀ s ∈ u.body, WellFormed 0 s := by
  intro s hs
  rw [h.body] at hs
  obtain ⟨v, hv, hs⟩ := List.mem_flatMap.1 hs
  obtain ⟨b, -, rfl⟩ := List.mem_map.1 hv
  exact wellFormed_of_mem_statements hs

theorem HasBody.covers (h : p.HasBody u) (hp : p.node.SpansNest) :
    ∀ s ∈ u.body, Statement.Covers s := by
  intro s hs
  rw [h.body] at hs
  obtain ⟨v, hv, hs⟩ := List.mem_flatMap.1 hs
  obtain ⟨b, hb, rfl⟩ := List.mem_map.1 hv
  have hchild := Node.mem_of_childWithRole? (Option.mem_toList.1 hb)
  exact (covers_of_mem_statements
    (hp.of_mem_nodesBelow (Node.mem_nodesBelow_of_mem_children hchild)) hs).2

end StructuralUnit.Place

namespace StructuralModel

open Statement StructuralUnit

/-- **The statements of every unit of a model are well formed.** A statement records the number of
control constructs around it, so that a tally that checks the recorded depths never gives up; it is
shaped; and it lies in the span of the statement around it, if the nodes of the tree do. -/
theorem stands_wellFormed {d : Document} {m : StructuralModel} {u : StructuralUnit}
    (h : ofDocument d = .ok m) (hu : u ∈ m.units) :
    (∀ around s, Stands u.body around s →
        s.depth = around.countP isControl ∧ s.IsShaped) ∧
      (∀ config, checkedAll? config 0 u.body = some (Tally.ofStatements config 0 u.body)) ∧
      (d.root.SpansNest → ∀ around t s, Stands u.body (t :: around) s →
        t.span.contains s.span) := by
  obtain ⟨p, hp, hbody⟩ := exists_place_of_mem_units h hu
  refine ⟨fun around s hs => ?_, fun config => checkedAll?_eq_some hbody.wellFormed,
    fun hspans around t s hs => ?_⟩
  · have := hs.wellFormed hbody.wellFormed
    exact ⟨this.depth_eq, this.isShaped⟩
  · have hcovers := hbody.covers (hspans.of_mem_nodes (Place.node_mem_nodes_of_mem_places hp))
    cases hs with
    | nested ht h =>
      cases ht.covers hcovers with
      | intro contains _ => exact contains s h

/-- The tree of a function with a loop whose body is in braces of its own, in an `if`. -/
def bracedRoot : Node :=
  ⟨.translationUnit, { stop := 20 }, none, none, [
    ⟨.functionDefinition, { stop := 20 }, none, none, [
      .identifier .declarator "f",
      ⟨.compound, { start := 2, stop := 20 }, some .body, none, [
        ⟨.ifStatement, { start := 4, stop := 18 }, none, none, [
          ⟨.compound, { start := 6, stop := 16 }, some .consequence, none, [
            ⟨.compound, { start := 8, stop := 14 }, none, none, [
              ⟨.whileLoop, { start := 10, stop := 12 }, none, none, [
                ⟨.other, { start := 11, stop := 12 }, some .body, none, []⟩]⟩]⟩]⟩]⟩]⟩]⟩]⟩

/-- The loop in `bracedRoot`. -/
def bracedLoop : Statement :=
  .mk (.loop .whileLoop 0 [.mk .sequential { start := 11, stop := 12 } 2 0])
    { start := 10, stop := 12 } 1 0

/-- The braces around the loop in `bracedRoot`. -/
def bracedBlock : Statement := .mk (.block [bracedLoop]) { start := 8, stop := 14 } 1 0

/-- The statement of `bracedRoot`. -/
def bracedIf : Statement :=
  .mk (.ifElse [.mk 0 [bracedBlock]] none) { start := 4, stop := 18 } 0 0

/-- The unit of `bracedRoot`. -/
def bracedUnit : StructuralUnit where
  name := "f"
  kind := .function
  parameterCount := 0
  body := [bracedIf]
  span := { stop := 20 }
  enclosingType := none
  lambdaCount := 0
  realLines := 0

theorem spansNest_bracedRoot : bracedRoot.SpansNest := by
  simp [Node.SpansNest, bracedRoot, Node.nodes_eq, Node.nodesBelow, Node.identifier, Span.contains]

/-- The loop in `bracedRoot` is at depth one: the braces around it count for nothing. -/
theorem stands_wellFormed_braced :
    ofDocument ⟨.c, bracedRoot, ⟨[], []⟩⟩ = .ok ⟨.c, [bracedUnit], {}, []⟩ ∧
      Stands bracedUnit.body [bracedBlock, bracedIf] bracedLoop ∧
      bracedLoop.depth = [bracedBlock, bracedIf].countP isControl ∧
      checkedAll? {} 0 bracedUnit.body = some (Tally.ofStatements {} 0 bracedUnit.body) ∧
      bracedRoot.SpansNest ∧ bracedBlock.span.contains bracedLoop.span := by
  have h : ofDocument ⟨.c, bracedRoot, ⟨[], []⟩⟩ = .ok ⟨.c, [bracedUnit], {}, []⟩ := by cbv
  have hs : Stands bracedUnit.body [bracedBlock, bracedIf] bracedLoop :=
    .nested (.nested (.top List.mem_cons_self) List.mem_cons_self) List.mem_cons_self
  obtain ⟨hdepth, hchecked, hspan⟩ := stands_wellFormed h List.mem_cons_self
  exact ⟨h, hs, (hdepth _ _ hs).1, hchecked {}, spansNest_bracedRoot,
    hspan spansNest_bracedRoot _ _ _ hs⟩

end StructuralModel

end CodeMetrics
