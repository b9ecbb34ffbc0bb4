import CodeMetrics.Proofs.Statement.Visit
import Mathlib.Data.List.Basic

/-!
# The statements that visits become

What a visited node becomes, as a plain function of the tree: `Build.Visit.statements`. Unlike the
building of a body it neither fails nor counts levels, so that a property of the statements of a
body can be proved by one induction over the visits. `Build.builds_ofBody` says that building a body
gives these statements whenever it gives any.

The members of an `else if` ladder are reached one from the other as visits, but become one
statement; `Build.Visit.rungs` lists them.
-/

namespace CodeMetrics.Build.Visit

open Cst

/-! ### The ladder of an `if` -/

/-- What follows an `if` in its ladder, read off its alternative. -/
theorem alternative?_of_ladderNext (n : Node) :
    match ladderNext n with
    | .next m => alternative? n = some m ∧ m.kind = .ifStatement
    | .done (.otherwise a) => alternative? n = some a ∧ a.kind ≠ .ifStatement
    | .done .open => alternative? n = none ∧ n.childWithRole? .alternative = none
    | .done (.empty c) =>
      alternative? n = none ∧ n.childWithRole? .alternative = some c ∧ c.kind = .elseClause ∧
        c.children = [] := by
  unfold ladderNext alternative?
  cases hb : n.childWithRole? .alternative with
  | none => simp
  | some b =>
    by_cases hk : b.kind = .elseClause
    · cases hc : b.children with
      | nil => simp [hk, hc]
      | cons c cs => by_cases hi : c.kind = .ifStatement <;> simp [hk, hc, hi]
    · by_cases hi : b.kind = .ifStatement <;> simp [hk, hi]

theorem ladder_of_next {n m : Node} (h : ladderNext n = .next m) :
    ladder n = (m :: (ladder m).1, (ladder m).2) := by
  rw [ladder]
  split
  · next h' => rw [h] at h'; cases h'
  · next h' => rw [h] at h'; cases h'; rfl

theorem ladder_of_done {n : Node} {e : LadderEnd} (h : ladderNext n = .done e) :
    ladder n = ([], e) := by
  rw [ladder]
  split
  · next h' => rw [h] at h'; cases h'; rfl
  · next h' => rw [h] at h'; cases h'

/-- The `if`s of a ladder, the first one included. -/
def rungs (v : Visit) : List Visit := (v.node :: (ladder v.node).1).map (v.beside .rung)

/-- The last alternative at the end of a ladder. -/
def ofEnd? (v : Visit) : LadderEnd → Option Visit
  | .otherwise n => some (v.below .body n)
  | .open | .empty _ => none

/-- The last alternative of a ladder. -/
def otherwise? (v : Visit) : Option Visit := v.ofEnd? (ladder v.node).2

theorem mem_nodesBelow_of_mem_ladder {n m : Node} (h : m ∈ (ladder n).1) : m ∈ n.nodesBelow := by
  induction n using ladder.induct with
  | case1 n e hn =>
    rw [ladder_of_done hn] at h
    cases h
  | case2 n k hn _ _ _ ih =>
    have hk := alternative?_of_ladderNext n
    rw [hn] at hk
    have hkn := mem_nodesBelow_of_alternative? hk.1
    rw [ladder_of_next hn] at h
    rcases List.mem_cons.1 h with rfl | h
    · exact hkn
    · exact Node.nodesBelow_subset_of_mem hkn (Node.nodesBelow_subset_nodes k (ih h))

theorem mem_nodesBelow_of_ladder_otherwise {n a : Node} (h : (ladder n).2 = .otherwise a) :
    a ∈ n.nodesBelow := by
  induction n using ladder.induct with
  | case1 n e hn =>
    have he := alternative?_of_ladderNext n
    rw [ladder_of_done hn] at h
    obtain rfl : e = .otherwise a := h
    rw [hn] at he
    exact mem_nodesBelow_of_alternative? he.1
  | case2 n k hn _ _ _ ih =>
    have hk := alternative?_of_ladderNext n
    rw [hn] at hk
    rw [ladder_of_next hn] at h
    exact Node.nodesBelow_subset_of_mem (mem_nodesBelow_of_alternative? hk.1)
      (Node.nodesBelow_subset_nodes k (ih h))

/-! ### The statements of a visit -/

/-- The logical operators of the condition. -/
def logical (v : Visit) : Nat := ((v.node.childWithRole? .condition).map Node.countLogical).getD 0

/-- The conditional expressions of the condition. -/
def conditionals (v : Visit) : Nat :=
  ((v.node.childWithRole? .condition).map Node.countConditionals).getD 0

/-- The labels of two lists of items together, for any number of lists. -/
def joinLabels (labels : List CaseLabels) : CaseLabels := labels.foldr CaseLabels.append {}

/-- The labels that an item brings to its switch. -/
def itemLabels (n : Node) : CaseLabels :=
  if n.kind = .case then caseLabel n
  else if n.kind = .conditionalGroup then
    joinLabels ((groupItems n).attach.map fun c => itemLabels c.1)
  else {}
termination_by sizeOf n
decreasing_by exact Node.sizeOf_lt_of_mem_children (List.mem_filter.1 c.2).1

theorem itemLabels_eq (n : Node) :
    itemLabels n = if n.kind = .case then caseLabel n
      else if n.kind = .conditionalGroup then joinLabels ((groupItems n).map itemLabels)
      else {} := by
  rw [itemLabels]
  simp

variable (f : Visit → List Statement)

/-- One arm of a ladder, given the statements of what it leads to. -/
def armWith (v : Visit) : Arm where
  conditionals := v.conditionals
  lambdas := v.conditionLambdas.flatMap f
  arm := .mk v.logical ((v.enclosed v.node .consequence).flatMap f)

/-- The statements of a visit, given those of the visits it leads to. -/
def statementsWith (v : Visit) : List Statement :=
  match v.construct with
  | .directive | .clause => []
  | .lambda | .group => [block v.node v.depth (v.next.flatMap f)]
  | .braces =>
    if v.position = .body then v.next.flatMap f else [block v.node v.depth (v.next.flatMap f)]
  | .labeled | .case => v.next.flatMap f
  | .ifElse =>
    let arms := v.rungs.map (armWith f)
    arms.flatMap Arm.lambdas ++
      [.mk (.ifElse (arms.map Arm.arm) (v.otherwise?.map f)) v.node.span v.depth
        (total Arm.conditionals arms)]
  | .loop =>
    (v.headers.flatMap v.lambdasIn).flatMap f ++
      [.mk (.loop (loopKind v.node.kind) v.logical ((v.enclosed v.node .body).flatMap f))
        v.node.span v.depth (total Node.countConditionals v.headers)]
  | .switch =>
    let labels := joinLabels (v.items.map fun w => itemLabels w.node)
    v.conditionLambdas.flatMap f ++
      [.mk (.switch labels.count labels.hasDefault v.logical (v.items.flatMap f)) v.node.span
        v.depth v.conditionals]
  | .tryCatch =>
    [.mk (.tryCatch v.handlers.length ((v.enclosed v.node .body).flatMap f)
      (v.handlers.map fun ws => ws.flatMap f)) v.node.span v.depth 0]
  | .plain =>
    .mk .sequential v.node.span v.depth v.node.countConditionals :: v.next.flatMap f


theorem nodesBelow_subset_of_mem_rungs {v r : Visit} (h : r ∈ v.rungs) :
    r.node.nodesBelow ⊆ v.node.nodesBelow := by
  obtain ⟨m, hm, rfl⟩ := List.mem_map.1 h
  rcases List.mem_cons.1 hm with rfl | hm
  · exact List.Subset.refl _
  · intro k hk
    exact Node.nodesBelow_subset_of_mem (mem_nodesBelow_of_mem_ladder hm)
      (Node.nodesBelow_subset_nodes m hk)

theorem mem_nodesBelow_of_otherwise? {v w : Visit} (h : v.otherwise? = some w) :
    w.node ∈ v.node.nodesBelow := by
  rw [otherwise?] at h
  cases he : (ladder v.node).2 <;> rw [he] at h <;> cases h
  exact mem_nodesBelow_of_ladder_otherwise he

variable {f} in
theorem statementsWith_congr {g : Visit → List Statement} {v : Visit}
    (h : ∀ w : Visit, w.node ∈ v.node.nodesBelow → f w = g w) :
    statementsWith f v = statementsWith g v := by
  have hf : ∀ ws : List Visit, (∀ w ∈ ws, w.node ∈ v.node.nodesBelow) →
      ws.flatMap f = ws.flatMap g := fun ws hws =>
    List.flatMap_congr fun w hw => h w (hws w hw)
  have hnext : v.next.flatMap f = v.next.flatMap g := hf _ fun w => mem_nodesBelow_of_mem_next
  have hbody : (v.enclosed v.node .body).flatMap f = (v.enclosed v.node .body).flatMap g :=
    hf _ fun w => mem_nodesBelow_of_mem_enclosed
  have hcond : v.conditionLambdas.flatMap f = v.conditionLambdas.flatMap g :=
    hf _ fun w => mem_nodesBelow_of_mem_conditionLambdas
  unfold statementsWith
  cases hc : v.construct <;> simp only [hnext, hbody, hcond]
  case ifElse =>
    have harms : v.rungs.map (armWith f) = v.rungs.map (armWith g) := by
      refine List.map_congr_left fun r hr => ?_
      have hsub := nodesBelow_subset_of_mem_rungs hr
      have h1 := hf r.conditionLambdas fun w hw => hsub (mem_nodesBelow_of_mem_conditionLambdas hw)
      have h2 := hf (r.enclosed r.node .consequence) fun w hw =>
        hsub (mem_nodesBelow_of_mem_enclosed hw)
      rw [armWith, armWith, h1, h2]
    have hother : v.otherwise?.map f = v.otherwise?.map g :=
      Option.map_congr fun w hw => h w (mem_nodesBelow_of_otherwise? hw)
    rw [harms, hother]
  case loop => rw [hf _ fun w => mem_nodesBelow_of_mem_headers]
  case switch => rw [hf _ fun w => mem_nodesBelow_of_mem_items]
  case tryCatch =>
    have hh : (v.handlers.map fun ws => ws.flatMap f) = v.handlers.map fun ws => ws.flatMap g :=
      List.map_congr_left fun ws hws => hf ws fun w hw =>
        mem_nodesBelow_of_mem_handlers (List.mem_flatten.2 ⟨ws, hws, hw⟩)
    rw [hh]

/-- **The statements of a visit.** -/
def statements (v : Visit) : List Statement :=
  statementsWith (fun w => if w.node.size < v.node.size then w.statements else []) v
termination_by v.node.size

theorem statements_eq (v : Visit) : v.statements = statementsWith statements v := by
  rw [statements]
  exact statementsWith_congr fun w hw => if_pos (Node.size_lt_of_mem_nodesBelow hw)

end CodeMetrics.Build.Visit
