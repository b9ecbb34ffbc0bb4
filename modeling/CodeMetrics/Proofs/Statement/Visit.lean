import CodeMetrics.Proofs.Cst.Nodes
import CodeMetrics.Statement.Build

/-!
# The nodes met while a body is built

Building the statements of a body is a recursion over levels, with a counter of lambdas and with
failures. This file says *which nodes of the tree it meets*, and says it without any of the three:
a `Build.Visit` is a node together with how it is met, `Build.Visit.next` gives the visits that one
leads to, and `Build.Visit.visits` gives all of them.

A visit records three things about its node.

* Its **position**. Braces around a body are left out, a case label may only stand among the items
  of a switch, an `if` after `else` continues a ladder, and a lambda in an expression is merged into
  the body that holds the expression.
* The number of **control constructs** around it. What a construct encloses is one deeper; a lambda
  in its header is not, for it is merged beside the construct.
* The number of **statements open** around it, which the limit on nesting is about
  (`Build.Visit.opens`).

What can be wrong with a visited node is listed by `Build.Visit.HasFault`, one rule for each way.
-/

namespace CodeMetrics.Build

open Cst

/-- How a node is met while a body is built. -/
inductive Position where
  /-- As the body of a callable or of a control construct, whose braces are left out. -/
  | body
  /-- Among statements. -/
  | statement
  /-- Among the items of a switch. -/
  | item
  /-- As an `if` that continues a ladder. -/
  | rung
  /-- As a lambda in an expression. -/
  | lambda
  deriving DecidableEq

/-- The sorts of nodes that building tells apart. -/
inductive Construct where
  | lambda
  | directive
  | braces
  | group
  | labeled
  | ifElse
  | loop
  | switch
  | tryCatch
  | case
  /-- A catch or else clause. -/
  | clause
  /-- Everything that becomes a sequential statement. -/
  | plain
  deriving DecidableEq

/-- The sort of a kind of node in statement position. -/
def Construct.ofKind : Kind → Construct
  | .directive => .directive
  | .compound => .braces
  | .conditionalGroup => .group
  | .labeled => .labeled
  | .ifStatement => .ifElse
  | .forLoop | .rangeFor | .whileLoop | .doLoop => .loop
  | .switch => .switch
  | .tryStatement => .tryCatch
  | .case => .case
  | .catchClause | .elseClause => .clause
  | _ => .plain

/-- A node that is met while a body is built. -/
structure Visit where
  position : Position
  node : Node
  /-- The number of control constructs around the node. -/
  depth : Nat
  /-- The number of statements open around the node. -/
  opened : Nat

/-- The error that a node with a fault is rejected with. -/
def errorAt (n : Node) (fault : NormalizationFault) : NormalizationError :=
  ⟨n.kind, n.span.start, fault⟩

namespace Visit

/-- The visit that the building of a body begins with. -/
def start (n : Node) : Visit := ⟨.body, n, 0, 0⟩

/-- The sort of the node. -/
def construct (v : Visit) : Construct :=
  if v.position = .lambda then .lambda else .ofKind v.node.kind

/-! ### What a visit leads to -/

/-- Whether the node takes up a level of nesting. The braces of a body, the labels of a switch and
the further members of a ladder take up none. -/
def opens (v : Visit) : Bool :=
  match v.position with
  | .body => v.node.kind != .compound
  | .statement => true
  | .item => v.node.kind != .case
  | .rung | .lambda => false

/-- The number of statements open around what the node holds. -/
def inside (v : Visit) : Nat := if v.opens then v.opened + 1 else v.opened

/-- The visit of a part at the depth of the node. -/
def beside (v : Visit) (position : Position) (n : Node) : Visit := ⟨position, n, v.depth, v.inside⟩

/-- The visit of a part that the node, a control construct, encloses. -/
def below (v : Visit) (position : Position) (n : Node) : Visit :=
  ⟨position, n, v.depth + 1, v.inside⟩

/-- The lambdas in an expression of the node. -/
def lambdasIn (v : Visit) (n : Node) : List Visit := n.lambdasBelow.map (v.beside .lambda)

/-- The lambdas in the condition. -/
def conditionLambdas (v : Visit) : List Visit :=
  (v.node.childWithRole? .condition).toList.flatMap v.lambdasIn

/-- The parts of the header of a loop. -/
def headers (v : Visit) : List Node := v.node.children.filter fun c => c.role != some .body

/-- The child of a part in a role, enclosed as a body. -/
def enclosed (v : Visit) (n : Node) (role : Role) : List Visit :=
  (n.childWithRole? role).toList.map (v.below .body)

/-- The items of a switch. -/
def items (v : Visit) : List Visit :=
  (v.node.childWithRole? .body).toList.flatMap fun b => b.children.map (v.below .item)

/-- The bodies of the catch clauses. -/
def handlers (v : Visit) : List (List Visit) :=
  (v.node.childrenOfKind .catchClause).map fun c => v.enclosed c .body

/-- The statement that an alternative holds: an `else` stands for the first thing in it. -/
def alternative? (n : Node) : Option Node :=
  (n.childWithRole? .alternative).bind fun a =>
    if a.kind = .elseClause then a.children.head? else some a

/-- An alternative, which continues the ladder if it is an `if`. -/
def visitAlternative (v : Visit) (n : Node) : Visit :=
  if n.kind = .ifStatement then v.beside .rung n else v.below .body n

/-- The position of the items of a group: those of a group among the items of a switch are items
of the switch. -/
def groupPosition (v : Visit) : Position := if v.position = .item then .item else .statement

/-- **What a visit leads to**, directly. A lambda in the header of a control construct stands beside
the construct, not inside it. -/
def next (v : Visit) : List Visit :=
  match v.construct with
  | .lambda => (v.node.childWithRole? .body).toList.map (v.beside .body)
  | .directive | .clause => []
  | .braces => v.node.children.map (v.beside .statement)
  | .group => (groupItems v.node).map (v.beside v.groupPosition)
  | .labeled => (v.node.children.filter fun c => c.kind != .identifier).map (v.beside .statement)
  | .ifElse =>
    v.conditionLambdas ++ v.enclosed v.node .consequence ++
      (alternative? v.node).toList.map v.visitAlternative
  | .loop => v.headers.flatMap v.lambdasIn ++ v.enclosed v.node .body
  | .switch => v.conditionLambdas ++ v.items
  | .tryCatch => v.enclosed v.node .body ++ v.handlers.flatten
  | .case => (v.node.children.filter fun c => c.role != some .value).map (v.beside .statement)
  | .plain => v.lambdasIn v.node

/-! ### Visits lead downwards -/

@[simp] theorem beside_node (v : Visit) (p : Position) (n : Node) : (v.beside p n).node = n := rfl

@[simp] theorem below_node (v : Visit) (p : Position) (n : Node) : (v.below p n).node = n := rfl

@[simp] theorem beside_depth (v : Visit) (p : Position) (n : Node) :
    (v.beside p n).depth = v.depth := rfl

@[simp] theorem below_depth (v : Visit) (p : Position) (n : Node) :
    (v.below p n).depth = v.depth + 1 := rfl

@[simp] theorem beside_opened (v : Visit) (p : Position) (n : Node) :
    (v.beside p n).opened = v.inside := rfl

@[simp] theorem below_opened (v : Visit) (p : Position) (n : Node) :
    (v.below p n).opened = v.inside := rfl

theorem mem_nodesBelow_of_mem_lambdasIn {v w : Visit} {n : Node} (h : w ∈ v.lambdasIn n) :
    w.node ∈ n.nodesBelow := by
  obtain ⟨l, hl, rfl⟩ := List.mem_map.1 h
  exact Node.mem_nodesBelow_of_mem_lambdasBelow hl

theorem mem_nodesBelow_of_mem_lambdasIn_child {v w : Visit} {c : Node} (hc : c ∈ v.node.children)
    (h : w ∈ v.lambdasIn c) : w.node ∈ v.node.nodesBelow :=
  Node.mem_nodesBelow.2 ⟨c, hc, Node.nodesBelow_subset_nodes c (mem_nodesBelow_of_mem_lambdasIn h)⟩

theorem mem_nodesBelow_of_mem_conditionLambdas {v w : Visit} (h : w ∈ v.conditionLambdas) :
    w.node ∈ v.node.nodesBelow := by
  obtain ⟨c, hc, hw⟩ := List.mem_flatMap.1 h
  exact mem_nodesBelow_of_mem_lambdasIn_child
    (Node.mem_of_childWithRole? (Option.mem_toList.1 hc)) hw

theorem mem_nodesBelow_of_mem_headers {v w : Visit} (h : w ∈ v.headers.flatMap v.lambdasIn) :
    w.node ∈ v.node.nodesBelow := by
  obtain ⟨c, hc, hw⟩ := List.mem_flatMap.1 h
  exact mem_nodesBelow_of_mem_lambdasIn_child (List.mem_filter.1 hc).1 hw

theorem mem_nodesBelow_of_mem_enclosed {v w : Visit} {n : Node} {role : Role}
    (h : w ∈ v.enclosed n role) : w.node ∈ n.nodesBelow := by
  obtain ⟨c, hc, rfl⟩ := List.mem_map.1 h
  exact Node.mem_nodesBelow_of_mem_children (Node.mem_of_childWithRole? (Option.mem_toList.1 hc))

theorem mem_nodesBelow_of_mem_items {v w : Visit} (h : w ∈ v.items) :
    w.node ∈ v.node.nodesBelow := by
  obtain ⟨b, hb, hw⟩ := List.mem_flatMap.1 h
  obtain ⟨c, hc, rfl⟩ := List.mem_map.1 hw
  exact Node.mem_nodesBelow.2 ⟨b, Node.mem_of_childWithRole? (Option.mem_toList.1 hb),
    Node.nodesBelow_subset_nodes b (Node.mem_nodesBelow_of_mem_children hc)⟩

theorem mem_nodesBelow_of_mem_handlers {v w : Visit} (h : w ∈ v.handlers.flatten) :
    w.node ∈ v.node.nodesBelow := by
  obtain ⟨ws, hws, hw⟩ := List.mem_flatten.1 h
  obtain ⟨c, hc, rfl⟩ := List.mem_map.1 hws
  exact Node.mem_nodesBelow.2 ⟨c, Node.mem_of_mem_childrenOfKind hc,
    Node.nodesBelow_subset_nodes c (mem_nodesBelow_of_mem_enclosed hw)⟩

theorem mem_nodesBelow_of_alternative? {n a : Node} (h : alternative? n = some a) :
    a ∈ n.nodesBelow := by
  obtain ⟨b, hb, ha⟩ := Option.bind_eq_some_iff.1 h
  have hbn := Node.mem_nodesBelow_of_mem_children (Node.mem_of_childWithRole? hb)
  split at ha
  · have hab := Node.mem_nodesBelow_of_mem_children (List.mem_of_head? ha)
    exact Node.nodesBelow_subset_of_mem hbn (Node.nodesBelow_subset_nodes b hab)
  · cases ha
    exact hbn

/-- The sorts of control constructs. -/
def controls : List Construct := [.ifElse, .loop, .switch, .tryCatch]

/-- **How a visit leads to another**: by enclosing it, along a ladder, to a lambda in an expression,
or to a part of something that is no control construct. In each case the other node lies strictly
below. -/
inductive Leads (v : Visit) : Visit → Prop
  | enclosed {p : Position} {n : Node} (hn : n ∈ v.node.nodesBelow) (hc : v.construct ∈ controls)
      (hp : p ∉ [.lambda, .rung]) : Leads v (v.below p n)
  | rung {n : Node} (hn : n ∈ v.node.nodesBelow) (hk : n.kind = .ifStatement) :
      Leads v (v.beside .rung n)
  | lambda {n : Node} (hn : n ∈ v.node.nodesBelow) (hk : n.kind = .lambda) :
      Leads v (v.beside .lambda n)
  | part {p : Position} {n : Node} (hn : n ∈ v.node.nodesBelow) (hc : v.construct ∉ controls)
      (hp : p ∉ [.lambda, .rung]) : Leads v (v.beside p n)

theorem leads_of_mem_lambdasIn {v w : Visit} {n : Node} (hn : w.node ∈ v.node.nodesBelow)
    (h : w ∈ v.lambdasIn n) : v.Leads w := by
  obtain ⟨l, hl, rfl⟩ := List.mem_map.1 h
  exact .lambda hn (Node.kind_of_mem_lambdasBelow hl)

theorem leads_of_mem_enclosed {v w : Visit} {n : Node} {role : Role}
    (hn : w.node ∈ v.node.nodesBelow) (hc : v.construct ∈ controls) (h : w ∈ v.enclosed n role) :
    v.Leads w := by
  obtain ⟨c, -, rfl⟩ := List.mem_map.1 h
  exact .enclosed hn hc (by simp)

theorem leads_of_mem_conditionLambdas {v w : Visit} (h : w ∈ v.conditionLambdas) : v.Leads w := by
  obtain ⟨c, -, hw⟩ := List.mem_flatMap.1 h
  exact leads_of_mem_lambdasIn (mem_nodesBelow_of_mem_conditionLambdas h) hw

theorem leads_of_mem_map_beside {v w : Visit} {p : Position} {ns : List Node}
    (hns : ∀ n ∈ ns, n ∈ v.node.children) (hc : v.construct ∉ controls)
    (hp : p ∉ [.lambda, .rung]) (h : w ∈ ns.map (v.beside p)) : v.Leads w := by
  obtain ⟨n, hn, rfl⟩ := List.mem_map.1 h
  exact .part (Node.mem_nodesBelow_of_mem_children (hns n hn)) hc hp

theorem leads_of_mem_next {v w : Visit} (h : w ∈ v.next) : v.Leads w := by
  rw [next] at h
  cases hc : v.construct <;> simp only [hc] at h
  -- what holds its parts without being a control construct
  case directive | clause => cases h
  case plain => exact leads_of_mem_lambdasIn (mem_nodesBelow_of_mem_lambdasIn h) h
  case lambda =>
    refine leads_of_mem_map_beside (fun n hn => ?_) (by simp [hc, controls]) (by simp) h
    exact Node.mem_of_childWithRole? (Option.mem_toList.1 hn)
  case braces =>
    exact leads_of_mem_map_beside (fun n hn => hn) (by simp [hc, controls]) (by simp) h
  case labeled | case =>
    exact leads_of_mem_map_beside (fun n hn => (List.mem_filter.1 hn).1) (by simp [hc, controls])
      (by simp) h
  case group =>
    refine leads_of_mem_map_beside (fun n hn => (mem_groupItems.1 hn).1) (by simp [hc, controls])
      ?_ h
    unfold groupPosition
    split <;> simp
  -- control constructs: the lambdas of the header stand beside, the rest is enclosed
  case ifElse =>
    have hcontrol : v.construct ∈ controls := by simp [hc, controls]
    rcases List.mem_append.1 h with h | h
    · rcases List.mem_append.1 h with h | h
      · exact leads_of_mem_conditionLambdas h
      · exact leads_of_mem_enclosed (mem_nodesBelow_of_mem_enclosed h) hcontrol h
    · obtain ⟨a, ha, rfl⟩ := List.mem_map.1 h
      have hn := mem_nodesBelow_of_alternative? (Option.mem_toList.1 ha)
      unfold visitAlternative
      split
      · next hk => exact .rung hn hk
      · exact .enclosed hn hcontrol (by simp)
  case loop =>
    rcases List.mem_append.1 h with h | h
    · obtain ⟨c, -, hw⟩ := List.mem_flatMap.1 h
      exact leads_of_mem_lambdasIn (mem_nodesBelow_of_mem_headers h) hw
    · exact leads_of_mem_enclosed (mem_nodesBelow_of_mem_enclosed h) (by simp [hc, controls]) h
  case switch =>
    rcases List.mem_append.1 h with h | h
    · exact leads_of_mem_conditionLambdas h
    · have hn := mem_nodesBelow_of_mem_items h
      obtain ⟨b, -, hw⟩ := List.mem_flatMap.1 h
      obtain ⟨c, -, rfl⟩ := List.mem_map.1 hw
      exact .enclosed hn (by simp [hc, controls]) (by simp)
  case tryCatch =>
    have hcontrol : v.construct ∈ controls := by simp [hc, controls]
    rcases List.mem_append.1 h with h | h
    · exact leads_of_mem_enclosed (mem_nodesBelow_of_mem_enclosed h) hcontrol h
    · have hn := mem_nodesBelow_of_mem_handlers h
      obtain ⟨ws, hws, hw⟩ := List.mem_flatten.1 h
      obtain ⟨c, -, rfl⟩ := List.mem_map.1 hws
      exact leads_of_mem_enclosed hn hcontrol hw

/-- **A visit leads only to nodes strictly below its own.** -/
theorem mem_nodesBelow_of_mem_next {v w : Visit} (h : w ∈ v.next) :
    w.node ∈ v.node.nodesBelow := by
  cases leads_of_mem_next h <;> assumption

/-! ### All that is visited -/

/-- **All visits from a given one on**, in the order in which they are met. -/
def visits (v : Visit) : List Visit :=
  v :: v.next.attach.flatMap fun w => w.1.visits
termination_by v.node.size
decreasing_by exact Node.size_lt_of_mem_nodesBelow (mem_nodesBelow_of_mem_next w.2)

theorem visits_eq (v : Visit) : v.visits = v :: v.next.flatMap visits := by
  rw [visits]
  simp

theorem mem_visits_self (v : Visit) : v ∈ v.visits := by
  rw [visits_eq]
  exact List.mem_cons_self

/-- All that is visited lies in the tree below the first visit. -/
theorem node_mem_nodes_of_mem_visits {v w : Visit} (h : w ∈ v.visits) : w.node ∈ v.node.nodes := by
  induction v using visits.induct with
  | case1 v ih =>
    rw [visits_eq] at h
    rcases List.mem_cons.1 h with rfl | h
    · exact Node.mem_nodes_self _
    · obtain ⟨u, hu, hw⟩ := List.mem_flatMap.1 h
      have hn := Node.nodesBelow_subset_nodes _ (mem_nodesBelow_of_mem_next hu)
      exact Node.nodes_subset_of_mem hn (ih ⟨u, hu⟩ hw)

/-! ### Sorts and positions -/

theorem position_ne_lambda_iff {v : Visit} : v.position ≠ .lambda ↔ v.construct ≠ .lambda := by
  unfold construct
  split
  · next h => simp [h]
  · next h =>
    simp only [h, ne_eq, not_false_eq_true, true_iff]
    cases v.node.kind <;> simp [Construct.ofKind]

theorem construct_of_position {v : Visit} (hp : v.position ≠ .lambda) :
    v.construct = .ofKind v.node.kind := if_neg hp

theorem kind_of_ifElse {v : Visit} (hc : v.construct = .ifElse) : v.node.kind = .ifStatement := by
  rw [construct_of_position (position_ne_lambda_iff.2 (by simp [hc]))] at hc
  cases hk : v.node.kind <;> simp_all [Construct.ofKind]

/-! ### What can be wrong -/

/-- **What is wrong at a visit**: which node has which fault. It is the visited node or one of its
clauses. -/
inductive HasFault (v : Visit) : Node → NormalizationFault → Prop
  /-- An `if` without a consequence. -/
  | missingConsequence (hc : v.construct = .ifElse)
      (h : v.node.childWithRole? .consequence = none) :
      HasFault v v.node .missingConsequence
  /-- An `else` that holds nothing. -/
  | elseWithoutStatement {clause : Node} (hc : v.construct = .ifElse)
      (ha : v.node.childWithRole? .alternative = some clause) (hk : clause.kind = .elseClause)
      (h : clause.children = []) : HasFault v clause .elseWithoutStatement
  /-- A loop without a body. -/
  | missingLoopBody (hc : v.construct = .loop) (h : v.node.childWithRole? .body = none) :
      HasFault v v.node .missingLoopBody
  /-- A switch without a body. -/
  | missingSwitchBody (hc : v.construct = .switch) (h : v.node.childWithRole? .body = none) :
      HasFault v v.node .missingSwitchBody
  /-- A try statement without a body. -/
  | missingTryBody (hc : v.construct = .tryCatch) (h : v.node.childWithRole? .body = none) :
      HasFault v v.node .missingTryBody
  /-- A catch clause without a body. -/
  | missingCatchBody {clause : Node} (hc : v.construct = .tryCatch)
      (hk : clause ∈ v.node.childrenOfKind .catchClause) (h : clause.childWithRole? .body = none) :
      HasFault v clause .missingCatchBody
  /-- A case label that is no item of a switch. -/
  | misplacedCase (hc : v.construct = .case) (h : v.position ≠ .item) :
      HasFault v v.node .outsideConstruct
  /-- A catch or else clause among statements. -/
  | misplacedClause (hc : v.construct = .clause) : HasFault v v.node .outsideConstruct
  /-- The first node on the way down that no level of nesting is left for. -/
  | nestedTooDeep (ho : v.opens) (h : v.opened = nestingLimit) :
      HasFault v v.node .nestedTooDeep

/-- The error that a visit is rejected with. -/
def Offends (v : Visit) (e : NormalizationError) : Prop :=
  ∃ n fault, v.HasFault n fault ∧ e = errorAt n fault

theorem HasFault.offends {v : Visit} {n : Node} {fault : NormalizationFault}
    (h : v.HasFault n fault) : v.Offends (errorAt n fault) :=
  ⟨n, fault, h, rfl⟩

/-- A node with a fault lies in the tree of the visited one. -/
theorem HasFault.mem_nodes {v : Visit} {n : Node} {fault : NormalizationFault}
    (h : v.HasFault n fault) : n ∈ v.node.nodes := by
  have hchild : ∀ c ∈ v.node.children, c ∈ v.node.nodes := fun c hc =>
    Node.nodesBelow_subset_nodes _ (Node.mem_nodesBelow_of_mem_children hc)
  cases h with
  | elseWithoutStatement hc ha hk h => exact hchild _ (Node.mem_of_childWithRole? ha)
  | missingCatchBody hc hk h => exact hchild _ (Node.mem_of_mem_childrenOfKind hk)
  | _ => exact Node.mem_nodes_self _

/-- The sorts of nodes that nothing can be missing from and that may stand anywhere. -/
def harmless : List Construct := [.lambda, .directive, .braces, .group, .labeled, .plain]

theorem not_offends_of_harmless {v : Visit} (hc : v.construct ∈ harmless)
    (ho : v.opens → v.opened ≠ nestingLimit) (e : NormalizationError) : ¬v.Offends e := by
  rintro ⟨_, _, ⟨h, -⟩ | ⟨h, -⟩ | ⟨h, -⟩ | ⟨h, -⟩ | ⟨h, -⟩ | ⟨h, -⟩ | ⟨h, -⟩ | h | ⟨h, hl⟩, rfl⟩
  case nestedTooDeep => exact ho h hl
  all_goals simp [h, harmless] at hc

/-- Whether the node is a lambda merged into the body. -/
def isLambda (v : Visit) : Bool := v.position = .lambda

end Visit

/-- The errors that some of the visits are rejected with. -/
def Faults (vs : List Visit) (e : NormalizationError) : Prop := ∃ v ∈ vs, v.Offends e

@[simp] theorem faults_nil (e : NormalizationError) : ¬Faults [] e := by
  rintro ⟨v, hv, -⟩
  cases hv

@[simp] theorem faults_cons (v : Visit) (vs : List Visit) (e : NormalizationError) :
    Faults (v :: vs) e ↔ v.Offends e ∨ Faults vs e := by
  simp [Faults]

@[simp] theorem faults_append (vs ws : List Visit) (e : NormalizationError) :
    Faults (vs ++ ws) e ↔ Faults vs e ∨ Faults ws e := by
  simp only [Faults, List.mem_append, or_and_right, exists_or]

/-- The number of lambdas among visits. -/
def lambdaCount (vs : List Visit) : Nat := vs.countP Visit.isLambda

@[simp] theorem lambdaCount_nil : lambdaCount [] = 0 := rfl

@[simp] theorem lambdaCount_append (vs ws : List Visit) :
    lambdaCount (vs ++ ws) = lambdaCount vs + lambdaCount ws := List.countP_append

theorem lambdaCount_cons (v : Visit) (vs : List Visit) :
    lambdaCount (v :: vs) = lambdaCount vs + if v.isLambda then 1 else 0 := List.countP_cons

end CodeMetrics.Build
