import CodeMetrics.Proofs.Metrics.Marks
import CodeMetrics.Proofs.StructuralUnit.Bodies

/-!
# Merged lambdas

Every lambda of a body is either merged into it or passed over, and never both. Lambdas are looked
for strictly below the parts of a header, below the conditions and below the statements that are no
constructs, and then again in the body of each lambda that was found. `Build.Visit.passedOver` lists
the nodes of a visited tree that are not looked at this way: a part of a header that is itself a
lambda, the captures and parameters of a lambda, the value of a case label, the parameter of a catch
clause, and so on.

One visit is enough for it (`Build.Visit.numberOf_eq_add`): the lambdas of the visited node are the
node, those of the visits that it leads to, and those that it passes over. Counting them along all
visits of a body for every property of nodes gives the lists themselves, up to order
(`Cst.Node.mergedLambdas_append_perm`).
-/

namespace CodeMetrics

namespace Cst.Node

/-- Whether a node is a lambda. -/
def isLambda (n : Node) : Bool := n.kind == .lambda

/-- The children that are left without the first child in each of some roles. -/
def childrenBesides (n : Node) (roles : List Role) : List Node :=
  roles.foldl (fun cs r => cs.eraseP fun c => c.role == some r) n.children

section

variable {f : Node → Nat}

theorem total_find?_add_eraseP (q : Node → Bool) (cs : List Node) :
    total f (cs.find? q).toList + total f (cs.eraseP q) = total f cs := by
  induction cs with
  | nil => rfl
  | cons c cs ih =>
    by_cases h : q c
    · simp [h]
    · simp only [List.find?_cons, List.eraseP_cons, h, cond_false, total_cons]
      omega

theorem find?_eraseP {p q : Node → Bool} (h : ∀ c, q c → ¬p c) (cs : List Node) :
    (cs.eraseP p).find? q = cs.find? q := by
  induction cs with
  | nil => rfl
  | cons c cs ih =>
    by_cases hp : p c
    · have hq : q c = false := by
        by_contra hq
        exact h c (by simpa using hq) hp
      simp [hp, hq]
    · simp [hp, List.find?_cons, ih]

/-- **The children in some roles, and the others.** -/
theorem total_childWithRole?_add (n : Node) (roles : List Role) (h : roles.Nodup) :
    total (fun r => total f (n.childWithRole? r).toList) roles + total f (n.childrenBesides roles) =
      total f n.children := by
  unfold childWithRole? childrenBesides
  generalize n.children = cs
  induction roles generalizing cs with
  | nil => simp
  | cons r rs ih =>
    obtain ⟨hr, hrs⟩ := List.nodup_cons.1 h
    have hfirst := total_find?_add_eraseP (f := f) (fun c => c.role == some r) cs
    -- taking the child in one role away leaves the children in the others
    have hothers : total (fun s => total f ((cs.eraseP fun c => c.role == some r).find?
        fun c => c.role == some s).toList) rs =
        total (fun s => total f (cs.find? fun c => c.role == some s).toList) rs := by
      refine total_congr fun s hs => ?_
      rw [find?_eraseP fun c hc hc' => hr ?_]
      have hrs : some r = some s := (beq_iff_eq.1 hc').symm.trans (beq_iff_eq.1 hc)
      exact Option.some.inj hrs ▸ hs
    have hrest := ih hrs (cs.eraseP fun c => c.role == some r)
    rw [hothers] at hrest
    rw [total_cons, List.foldl_cons]
    omega

theorem total_find?_add_tail (q : Node → Bool) (cs : List Node) :
    total f (cs.find? q).toList + total f (cs.filter q).tail = total f (cs.filter q) := by
  rw [← List.head?_filter]
  cases cs.filter q <;> simp

end

/-! ### Lambdas below a node -/

variable {p : Node → Bool}

theorem numberOf_of_kind (hp : ∀ m, p m → m.isLambda) {n : Node} (hk : n.kind ≠ .lambda) :
    n.numberOf p = total (numberOf p) n.children := by
  have hn : p n = false := by
    by_contra h
    exact hk (beq_iff_eq.1 (hp n (by simpa using h)))
  rw [numberOf_eq, hn]
  simp

theorem total_outermostLambdas (hp : ∀ m, p m → m.isLambda) (ns : List Node) :
    total (numberOf p) (outermostLambdas ns) = total (numberOf p) ns := by
  fun_induction outermostLambdas ns with
  | case1 => rfl
  | case2 n rest hk ih => rw [total_cons, total_cons, ih]
  | case3 n rest hk ih => rw [ih, total_append, total_cons, numberOf_of_kind hp hk]

/-- **The lambdas of an expression** are those below it and the expression itself, if it is one. -/
theorem total_lambdasBelow (hp : ∀ m, p m → m.isLambda) (n : Node) :
    n.numberOf p = (if p n then 1 else 0) + total (numberOf p) n.lambdasBelow := by
  rw [lambdasBelow, total_outermostLambdas hp, numberOf_eq]

end Cst.Node

open Cst Node

namespace Build.Visit

/-! ### What a visit passes over -/

/-- The expressions of a node that lambdas are looked for in. -/
def searched (v : Visit) : List Node :=
  match v.construct with
  | .ifElse | .switch => (v.node.childWithRole? .condition).toList
  | .loop => v.headers
  | .plain => [v.node]
  | _ => []

/-- What an `else` holds besides the statement that it stands for. -/
def elseRest (n : Node) : List Node :=
  (n.childWithRole? .alternative).toList.flatMap fun a =>
    if a.kind = .elseClause then a.children.tail else []

/-- What a try statement holds besides its body and its catch clauses. -/
def tryRest (n : Node) : List Node :=
  (n.children.filter fun c => c.kind != .catchClause).eraseP fun c => c.role == some .body

/-- **The nodes that a visit passes over**: those of its tree that it neither counts as a merged
lambda nor leads to. An expression in which lambdas are looked for is passed over itself, but not
the lambdas below it. -/
def passedOver (v : Visit) : List Node :=
  match v.construct with
  | .braces => []
  | .directive | .clause => v.node.nodes
  | .lambda => (v.node.childrenBesides [.body]).flatMap nodes
  | .group => (v.node.children.filter fun c => !isGroupItem c).flatMap nodes
  | .labeled => (v.node.children.filter fun c => c.kind == .identifier).flatMap nodes
  | .case => (v.node.children.filter fun c => c.role == some .value).flatMap nodes
  | .ifElse =>
    v.searched ++ (elseRest v.node ++
      v.node.childrenBesides [.condition, .consequence, .alternative]).flatMap nodes
  | .loop => v.searched ++ (v.node.children.filter fun c => c.role == some .body).tail.flatMap nodes
  | .switch =>
    v.searched ++ (v.node.childWithRole? .body).toList ++
      (v.node.childrenBesides [.condition, .body]).flatMap nodes
  | .tryCatch =>
    (tryRest v.node ++
      (v.node.childrenOfKind .catchClause).flatMap fun c => c.childrenBesides [.body]).flatMap nodes
  | .plain => v.searched

section

variable {p : Node → Bool} {v : Visit}

theorem kind_ne_lambda (hc : v.construct ∉ [.lambda, .plain]) : v.node.kind ≠ .lambda := by
  intro hk
  unfold construct at hc
  rw [hk] at hc
  split at hc <;> simp [Construct.ofKind] at hc

theorem isLambda_eq_false (hc : v.construct ≠ .lambda) : v.isLambda = false := by
  simpa [isLambda] using position_ne_lambda_iff.2 hc

/-- The lambdas of expressions that lambdas are looked for in. -/
theorem total_numberOf_searched (hp : ∀ m, p m → m.isLambda) (v : Visit) (hs : List Node) :
    total (numberOf p) hs = hs.countP p + total (holds p) (hs.flatMap v.lambdasIn) := by
  induction hs with
  | nil => rfl
  | cons h hs ih =>
    have hh := total_lambdasBelow hp h
    rw [List.countP_cons, List.flatMap_cons, total_append, total_cons, lambdasIn,
      total_holds_beside]
    omega

theorem numberOf_eq_add_of_ifElse (hp : ∀ m, p m → m.isLambda) (hc : v.construct = .ifElse) :
    v.node.numberOf p = total (holds p) v.next + v.passedOver.countP p := by
  have hnode := numberOf_of_kind hp (kind_ne_lambda (v := v) (by simp [hc]))
  have hroles := v.node.total_childWithRole?_add (f := numberOf p)
    [.condition, .consequence, .alternative] (by decide)
  have hcondition := total_numberOf_searched hp v (v.node.childWithRole? .condition).toList
  -- an `else` stands for the first thing in it
  have halternative : total (numberOf p) (v.node.childWithRole? .alternative).toList =
      total (holds p) ((alternative? v.node).toList.map v.visitAlternative) +
        total (numberOf p) (elseRest v.node) := by
    rw [total_holds_map p _ fun n => by unfold visitAlternative; split <;> rfl, alternative?,
      elseRest]
    cases v.node.childWithRole? .alternative with
    | none => rfl
    | some a =>
      by_cases hk : a.kind = .elseClause
      · have ha := numberOf_of_kind (n := a) hp (by simp [hk])
        cases hcs : a.children <;> simp_all
      · simp [hk]
  simp only [total_cons, total_nil, Nat.add_zero] at hroles
  simp only [passedOver, searched, next, hc, List.countP_append, countP_flatMap_nodes, total_append,
    total_holds_enclosed, conditionLambdas]
  omega

theorem numberOf_eq_add_of_loop (hp : ∀ m, p m → m.isLambda) (hc : v.construct = .loop) :
    v.node.numberOf p = total (holds p) v.next + v.passedOver.countP p := by
  have hnode := numberOf_of_kind hp (kind_ne_lambda (v := v) (by simp [hc]))
  have hsplit := total_filter_add (f := numberOf p) (fun c => c.role != some .body) v.node.children
  have hbodies := total_find?_add_tail (f := numberOf p) (fun c => c.role == some .body)
    v.node.children
  have hheaders := total_numberOf_searched hp v v.headers
  have hfilter : (v.node.children.filter fun c => !(c.role != some .body)) =
      v.node.children.filter fun c => c.role == some .body := by simp only [bne, Bool.not_not]
  rw [hfilter] at hsplit
  simp only [passedOver, searched, next, hc, List.countP_append, countP_flatMap_nodes, total_append,
    total_holds_enclosed, childWithRole?]
  rw [headers] at hheaders ⊢
  omega

theorem numberOf_eq_add_of_switch (hp : ∀ m, p m → m.isLambda) (hc : v.construct = .switch) :
    v.node.numberOf p = total (holds p) v.next + v.passedOver.countP p := by
  have hnode := numberOf_of_kind hp (kind_ne_lambda (v := v) (by simp [hc]))
  have hroles := v.node.total_childWithRole?_add (f := numberOf p)
    [.condition, .body] (by decide)
  have hcondition := total_numberOf_searched hp v (v.node.childWithRole? .condition).toList
  have hitems : total (numberOf p) (v.node.childWithRole? .body).toList =
      (v.node.childWithRole? .body).toList.countP p + total (holds p) v.items := by
    rw [items]
    cases v.node.childWithRole? .body with
    | none => rfl
    | some b =>
      have hb := numberOf_eq p b
      have hmap := total_holds_map p b.children (f := v.below .item) fun _ => rfl
      simp only [Option.toList_some, List.flatMap_singleton, total_cons, total_nil,
        List.countP_singleton, hmap]
      omega
  simp only [total_cons, total_nil, Nat.add_zero] at hroles
  simp only [passedOver, searched, next, hc, List.countP_append, countP_flatMap_nodes, total_append,
    conditionLambdas]
  omega

/-- The lambdas of catch clauses. -/
theorem total_numberOf_clauses (hp : ∀ m, p m → m.isLambda) (v : Visit) (cs : List Node)
    (hk : ∀ c ∈ cs, c.kind = .catchClause) :
    total (numberOf p) cs = total (holds p) (cs.map fun c => v.enclosed c .body).flatten +
      total (numberOf p) (cs.flatMap fun c => c.childrenBesides [.body]) := by
  induction cs with
  | nil => rfl
  | cons c cs ih =>
    have hc := numberOf_of_kind (n := c) hp (by simp [hk c List.mem_cons_self])
    have hroles := c.total_childWithRole?_add (f := numberOf p) [.body] (by decide)
    have hcs := ih fun d hd => hk d (List.mem_cons_of_mem c hd)
    simp only [total_cons, total_nil, Nat.add_zero] at hroles
    simp only [List.map_cons, List.flatten_cons, List.flatMap_cons, total_append, total_cons,
      total_holds_enclosed]
    omega

/-- A catch clause is no body, so the body of a try statement is none of its clauses. -/
theorem find?_body_of_tryCatch (hc : v.construct = .tryCatch)
    (hnext : ∀ w ∈ v.next, ∀ e, ¬w.Offends e) :
    (v.node.children.filter fun c => c.kind != .catchClause).find?
      (fun c => c.role == some .body) = v.node.childWithRole? .body := by
  rw [List.find?_filter]
  cases hb : v.node.childWithRole? .body with
  | none =>
    rw [childWithRole?, List.find?_eq_none] at hb
    exact List.find?_eq_none.2 fun c hc => by simp [hb c hc]
  | some b =>
    have hkind : b.kind ≠ .catchClause := by
      intro hk
      have hw : v.below .body b ∈ v.next := by simp [next, hc, enclosed, hb]
      refine hnext _ hw _ (HasFault.misplacedClause ?_).offends
      simp [construct, below, hk, Construct.ofKind]
    rw [childWithRole?, List.find?_eq_some_iff_append] at hb
    obtain ⟨hrole, as, bs, heq, has⟩ := hb
    refine List.find?_eq_some_iff_append.2 ⟨by simpa [hkind] using hrole, as, bs, heq, ?_⟩
    exact fun c hc => by simp [by simpa using has c hc]

theorem numberOf_eq_add_of_tryCatch (hp : ∀ m, p m → m.isLambda) (hc : v.construct = .tryCatch)
    (hnext : ∀ w ∈ v.next, ∀ e, ¬w.Offends e) :
    v.node.numberOf p = total (holds p) v.next + v.passedOver.countP p := by
  have hnode := numberOf_of_kind hp (kind_ne_lambda (v := v) (by simp [hc]))
  have hclauses := total_numberOf_clauses hp v (v.node.childrenOfKind .catchClause)
    fun c hc => by simpa using (List.mem_filter.1 hc).2
  have hsplit := total_filter_add (f := numberOf p) (fun c => c.kind == .catchClause)
    v.node.children
  have hrest := total_find?_add_eraseP (f := numberOf p) (fun c => c.role == some .body)
    (v.node.children.filter fun c => c.kind != .catchClause)
  rw [find?_body_of_tryCatch hc hnext] at hrest
  simp only [passedOver, next, hc, countP_flatMap_nodes, total_append, total_holds_enclosed,
    handlers, tryRest]
  rw [childrenOfKind] at hclauses ⊢
  have hne : (v.node.children.filter fun c => !(c.kind == .catchClause)) =
      v.node.children.filter fun c => c.kind != .catchClause := rfl
  rw [hne] at hsplit
  omega

/-- **The lambdas of a visited node** are the node itself, if it is merged, those of the visits that
it leads to, and those that it passes over. -/
theorem numberOf_eq_add (hp : ∀ m, p m → m.isLambda) (hnext : ∀ w ∈ v.next, ∀ e, ¬w.Offends e) :
    v.node.numberOf p = (if v.isLambda && p v.node then 1 else 0) + total (holds p) v.next +
      v.passedOver.countP p := by
  cases hc : v.construct
  case lambda =>
    have hl : v.isLambda = true := by
      by_contra h
      exact position_ne_lambda_iff.1 (by simpa [isLambda] using h) hc
    have hnode := numberOf_eq p v.node
    have hroles := v.node.total_childWithRole?_add (f := numberOf p) [.body] (by decide)
    simp only [total_cons, total_nil, Nat.add_zero] at hroles
    simp only [passedOver, next, hc, total_holds_beside, countP_flatMap_nodes, hl, Bool.true_and]
    omega
  all_goals
    rw [isLambda_eq_false (by simp [hc])]
    simp only [Bool.false_and, Bool.false_eq_true, if_false, Nat.zero_add]
  case ifElse => exact numberOf_eq_add_of_ifElse hp hc
  case loop => exact numberOf_eq_add_of_loop hp hc
  case switch => exact numberOf_eq_add_of_switch hp hc
  case tryCatch => exact numberOf_eq_add_of_tryCatch hp hc hnext
  case directive | clause => simp [passedOver, next, hc, numberOf]
  case plain =>
    have hsearched := total_numberOf_searched hp v [v.node]
    simp only [total_cons, total_nil, List.flatMap_singleton, Nat.add_zero] at hsearched
    simp only [passedOver, searched, next, hc]
    omega
  all_goals
    have hnode := numberOf_of_kind hp (kind_ne_lambda (v := v) (by simp [hc]))
    simp only [passedOver, next, hc, total_holds_beside, countP_flatMap_nodes, List.countP_nil,
      groupItems]
  case braces => exact hnode
  case group =>
    have := total_filter_add (f := numberOf p) isGroupItem v.node.children
    omega
  case labeled =>
    have := total_filter_add (f := numberOf p) (fun c => c.kind != .identifier) v.node.children
    simp only [bne, Bool.not_not] at this ⊢
    omega
  case case =>
    have := total_filter_add (f := numberOf p) (fun c => c.role != some .value) v.node.children
    simp only [bne, Bool.not_not] at this ⊢
    omega

/-- **The lambdas of a visited node along all visits.** -/
theorem numberOf_eq_visits (hp : ∀ m, p m → m.isLambda) (h : ∀ e, ¬Faults v.visits e) :
    v.node.numberOf p = ((v.visits.filter isLambda).map node).countP p +
      (v.visits.flatMap passedOver).countP p := by
  induction v using visits.induct with
  | case1 v ih =>
    rw [visits_eq] at h ⊢
    have hfaults : ∀ w ∈ v.next, ∀ e, ¬Faults w.visits e := by
      rintro w hw e ⟨u, hu, he⟩
      exact h e ⟨u, List.mem_cons_of_mem v (List.mem_flatMap.2 ⟨w, hw, hu⟩), he⟩
    have hstep := numberOf_eq_add (v := v) hp fun w hw e he =>
      hfaults w hw e ⟨w, mem_visits_self w, he⟩
    have hnext : total (holds p) v.next =
        (((v.next.flatMap visits).filter isLambda).map node).countP p +
          ((v.next.flatMap visits).flatMap passedOver).countP p := by
      generalize v.next = ws at ih hfaults
      induction ws with
      | nil => rfl
      | cons w ws ihws =>
        have hw := ih ⟨w, List.mem_cons_self⟩ (hfaults w List.mem_cons_self)
        have hws := ihws (fun u => ih ⟨u.1, List.mem_cons_of_mem w u.2⟩)
          fun u hu => hfaults u (List.mem_cons_of_mem w hu)
        simp only [total_cons, List.flatMap_cons, List.filter_append, List.map_append,
          List.flatMap_append, List.countP_append, holds] at hw hws ⊢
        omega
    rw [hstep, hnext, List.flatMap_cons, List.countP_append, List.filter_cons]
    by_cases hl : v.isLambda
    · simp only [hl, Bool.true_and, if_true, List.map_cons, List.countP_cons]
      omega
    · simp only [hl, Bool.false_and, Bool.false_eq_true, if_false]
      omega

end

end Build.Visit

/-! ### The lambdas of a body -/

namespace Build.Visit

theorem mem_visits_of_mem_next {v w u : Visit} (hw : w ∈ v.visits) (hu : u ∈ w.next) :
    u ∈ v.visits := by
  induction v using visits.induct with
  | case1 v ih =>
    rw [visits_eq] at hw ⊢
    refine List.mem_cons_of_mem v (List.mem_flatMap.2 ?_)
    rcases List.mem_cons.1 hw with rfl | hw
    · exact ⟨u, hu, mem_visits_self u⟩
    · obtain ⟨k, hk, hwk⟩ := List.mem_flatMap.1 hw
      exact ⟨k, hk, ih ⟨k, hk⟩ hwk⟩

/-- The lambdas below an expression that is searched are led to. -/
theorem beside_mem_next_of_mem_searched {v : Visit} {e l : Node} (he : e ∈ v.searched)
    (hl : l ∈ e.lambdasBelow) : v.beside .lambda l ∈ v.next := by
  have hmem : v.beside .lambda l ∈ v.searched.flatMap v.lambdasIn :=
    List.mem_flatMap.2 ⟨e, he, List.mem_map_of_mem hl⟩
  unfold searched at hmem
  unfold next
  cases hc : v.construct <;> simp only [hc] at hmem ⊢
  case ifElse | switch | loop => simp [conditionLambdas, hmem]
  case plain => simpa using hmem
  all_goals cases hmem

end Build.Visit

namespace Cst.Node

open Build

/-- **The lambdas that are merged into a body.** -/
def mergedLambdas (b : Node) : List Node :=
  ((Visit.start b).visits.filter Visit.isLambda).map Visit.node

/-- **The lambdas of a body that are not merged into it.** -/
def unmergedLambdas (b : Node) : List Node :=
  ((Visit.start b).visits.flatMap Visit.passedOver).filter isLambda

theorem length_mergedLambdas (b : Node) :
    b.mergedLambdas.length = lambdaCount (Visit.start b).visits := by
  rw [mergedLambdas, List.length_map, lambdaCount, List.countP_eq_length_filter]

theorem isLambda_of_mem_mergedLambdas {b m : Node} (h : m ∈ b.mergedLambdas) : m.isLambda := by
  obtain ⟨v, hv, rfl⟩ := List.mem_map.1 h
  obtain ⟨hv, hl⟩ := List.mem_filter.1 hv
  have hproper := Visit.proper_of_mem_visits (Visit.proper_start b) hv
  exact beq_iff_eq.2 (hproper.lambda (by simpa [Visit.isLambda] using hl))

theorem mem_mergedLambdas_of_mem_searched {b e l : Node} {v : Visit}
    (hv : v ∈ (Visit.start b).visits) (he : e ∈ v.searched) (hl : l ∈ e.lambdasBelow) :
    l ∈ b.mergedLambdas := by
  have hw := Visit.mem_visits_of_mem_next hv (Visit.beside_mem_next_of_mem_searched he hl)
  exact List.mem_map.2 ⟨v.beside .lambda l, List.mem_filter.2 ⟨hw, rfl⟩, rfl⟩

/-- **Every lambda of a body is merged once or passed over once.** -/
theorem mergedLambdas_append_perm {b : Node} (h : ∀ e, ¬Faults (Visit.start b).visits e) :
    (b.mergedLambdas ++ b.unmergedLambdas).Perm (b.nodes.filter isLambda) := by
  classical
  refine List.perm_iff_count.2 fun m => ?_
  have hcount := Visit.numberOf_eq_visits (p := fun n => n == m && n.isLambda)
    (fun n hn => (Bool.and_eq_true_iff.1 hn).2) h
  have hmerged : b.mergedLambdas.countP (fun n => n == m && n.isLambda) =
      b.mergedLambdas.countP fun n => n == m := by
    refine List.countP_congr fun n hn => ?_
    simp [isLambda_of_mem_mergedLambdas hn]
  rw [List.count_append, List.count_eq_countP, List.count_eq_countP, List.count_eq_countP,
    List.countP_filter, unmergedLambdas, List.countP_filter, ← hmerged]
  exact hcount.symm

end Cst.Node

namespace StructuralUnit

open Build

/-- The unit of a function holds what its body is built to. -/
theorem ofBody_of_ofFunction? {lines : LineIndex} {namespaces : List String} {scopes : List Scope}
    {n : Node} {u : StructuralUnit} (h : ofFunction? lines namespaces scopes n = .ok (some u)) :
    ∃ b, n.childWithRole? .body = some b ∧ ofBody b = .ok (u.body, u.lambdaCount) := by
  unfold ofFunction? at h
  split at h
  · cases h
  · next b hb =>
    split at h
    · cases h
    · obtain ⟨⟨statements, lambdas⟩, hbody, hu⟩ := bind_eq_ok h
      cases hu
      exact ⟨b, hb, hbody⟩

/-- **Every lambda in the body of a function is merged into its unit or passed over**, each once.
The unit counts those that are merged; so it counts all of them exactly if none is passed over. The
lambdas below the conditions, the parts of headers and the statements that are no constructs are
merged, those inside other lambdas among them, since the body of a merged lambda is visited like any
other; and the unit tallies what its visits contribute. -/
theorem lambdas_merged_or_passed_over {lines : LineIndex} {namespaces : List String}
    {scopes : List Scope} {n : Node} {u : StructuralUnit}
    (h : ofFunction? lines namespaces scopes n = .ok (some u)) :
    ∃ b, n.childWithRole? .body = some b ∧
      (b.mergedLambdas ++ b.unmergedLambdas).Perm (b.nodes.filter Node.isLambda) ∧
      u.lambdaCount = b.mergedLambdas.length ∧
      (u.lambdaCount = b.nodes.countP Node.isLambda ↔ b.unmergedLambdas = []) ∧
      (∀ v ∈ (Visit.start b).visits, ∀ e ∈ v.searched, ∀ l ∈ e.lambdasBelow,
        l ∈ b.mergedLambdas) ∧
      (∀ v ∈ (Visit.start b).visits, v.isLambda → ∀ c, v.node.childWithRole? .body = some c →
        v.beside .body c ∈ (Visit.start b).visits) ∧
      ∀ config, Tally.ofStatements config 0 u.body =
        ((Visit.start b).visits.map (Visit.own config)).sum := by
  obtain ⟨b, hb, hbody⟩ := ofBody_of_ofFunction? h
  obtain ⟨hstatements, hcount, hfaults⟩ := ofBody_eq_ok hbody
  have hperm := mergedLambdas_append_perm hfaults
  have hmerged : u.lambdaCount = b.mergedLambdas.length := by rw [hcount, length_mergedLambdas]
  refine ⟨b, hb, hperm, hmerged, ?_, fun v hv e he l hl => ?_, fun v hv hl c hc => ?_,
    fun config => ?_⟩
  · have hlength := hperm.length_eq
    rw [List.length_append, ← List.countP_eq_length_filter, ← hmerged] at hlength
    rw [← List.length_eq_zero_iff]
    omega
  · exact mem_mergedLambdas_of_mem_searched hv he hl
  · refine Visit.mem_visits_of_mem_next hv ?_
    have hp : v.position = .lambda := by simpa [Visit.isLambda] using hl
    simp [Visit.next, Visit.construct, hp, hc]
  · rw [hstatements]
    exact Visit.tally_eq_sum config hfaults

/-- A body of one statement with a lambda in it. The lambda holds an `if`, and the condition of the
`if` holds another lambda. -/
def nestedLambdas : Node :=
  .bare .compound (some .body) [
    .bare .other none [
      .bare .lambda none [
        .bare .compound (some .body) [
          .bare .ifStatement none [
            .bare .other (some .condition) [
              .bare .lambda none [.bare .compound (some .body) [.bare .other none []]]],
            .bare .compound (some .consequence) []]]]]]

/-- A body that is a loop: a step of its header is a lambda that holds an `if`. -/
def steppedLoop : Node :=
  .bare .compound (some .body) [
    .bare .forLoop none [
      .bare .lambda none [
        .bare .compound (some .body) [
          .bare .ifStatement none [
            .identifier .condition "x",
            .bare .compound (some .consequence) []]]],
      .bare .compound (some .body) [.bare .other none []]]]

/-- The definition of a function with a given body. -/
def definitionOf (b : Node) : Node :=
  .bare .functionDefinition none [.identifier .declarator "f", b]

/-- The unit of the function with the body `nestedLambdas`. -/
def nestedLambdasUnit : StructuralUnit :=
  unitOf [
    .mk .sequential {} 0 0,
    .mk (.block [
      .mk (.block [.mk .sequential {} 0 0]) {} 0 0,
      .mk (.ifElse [.mk 0 []] none) {} 0 0]) {} 0 0] 2

/-- Both lambdas of `nestedLambdas` are merged, the inner one as part of the outer one. -/
theorem lambdas_merged_or_passed_over_nested :
    ofFunction? ⟨[], []⟩ [] [] (definitionOf nestedLambdas) = .ok (some nestedLambdasUnit) ∧
      nestedLambdas.nodes.countP Node.isLambda = 2 ∧ nestedLambdas.unmergedLambdas = [] ∧
      (Tally.ofStatements {} 0 nestedLambdasUnit.body).branches = 1 := by
  have h : ofFunction? ⟨[], []⟩ [] [] (definitionOf nestedLambdas) =
      .ok (some nestedLambdasUnit) := by cbv
  have hcount : nestedLambdas.nodes.countP Node.isLambda = 2 := by
    simp [nestedLambdas, bare, nodes_eq, nodesBelow, isLambda]
  obtain ⟨b, hb, -, -, hall, -⟩ := lambdas_merged_or_passed_over h
  obtain rfl : nestedLambdas = b := Option.some.inj hb
  exact ⟨h, hcount, hall.1 hcount.symm, by decide⟩

/-- A lambda that is itself a part of the header of a loop is not merged, and the `if` in it counts
for nothing. -/
theorem lambda_as_header_passed_over :
    ofFunction? ⟨[], []⟩ [] [] (definitionOf steppedLoop) =
        .ok (some (unitOf [.mk (.loop .forLoop 0 [.mk .sequential {} 1 0]) {} 0 0] 0)) ∧
      steppedLoop.nodes.countP Node.isLambda = 1 := by
  constructor
  · cbv
  · cbv

end StructuralUnit

end CodeMetrics
