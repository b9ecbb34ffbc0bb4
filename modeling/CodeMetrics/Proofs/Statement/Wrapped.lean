import CodeMetrics.Proofs.Cst.Expressions
import CodeMetrics.Proofs.Statement.OfVisit
import Mathlib.Data.List.Forall2

/-!
# Bodies with a wrapped statement

A node of no category of its own that stands around a statement is a *wrapper*
(`Cst.Node.Wraps`). This file follows what becomes of the visits of a body when one statement in it
is wrapped.

`Cst.Node.Rewrapped` relates the two trees: the one has the statement where the other has the
wrapper. Everything that a visit reads of its node and of what lies below – children in a role, the
members of a ladder, lambdas in expressions, the labels of a switch – is again related, or equal, so
both bodies are visited in lockstep (`Build.Visit.forall₂_next`) down to the wrapped statement. There
the one visit goes on with the statement and the other with the wrapper: `Build.Along` lists these
places.
-/

namespace CodeMetrics

open Cst Build Build.Visit

namespace Cst.Node

/-- **A wrapper of a statement**: a node of no category of its own, in the place of the statement
and with nothing in it but the statement. The statement is no name, no lambda and no clause, and
brings no labels to a switch. -/
structure Wraps (w s : Node) : Prop where
  kind : w.kind = .other
  role : w.role = s.role
  children : ∃ role, w.children = [{ s with role }]
  alone : s.kind ∉ [.identifier, .lambda, .catchClause, .elseClause]
  labels : itemLabels s = {}

/-- **Whether a child is a statement by itself.** The body of a switch is not, for its items are
those of the switch, and an `if` after `else` is not, for it continues a ladder. -/
structure Admits (n s : Node) : Prop where
  switchBody : n.kind = .switch → s.role ≠ some .body
  ladder : s.kind = .ifStatement →
    n.kind ≠ .elseClause ∧ (n.kind = .ifStatement → s.role ≠ some .alternative)

/-- **Two trees that differ in one place below their roots**: the one has the statement `s` where
the other has `w`. -/
inductive Rewrapped (s w : Node) : Node → Node → Prop
  | child {n : Node} (before : List Node) {after : List Node}
      (hc : n.children = before ++ s :: after) (h : n.Admits s) :
      Rewrapped s w n { n with children := before ++ w :: after }
  | deeper {n c c' : Node} (before : List Node) {after : List Node}
      (hc : n.children = before ++ c :: after) (h : Rewrapped s w c c') :
      Rewrapped s w n { n with children := before ++ c' :: after }

/-- Two trees that differ in at most one place, and at their roots only if that is allowed. -/
inductive Turned (s w : Node) (free : Prop) : Node → Node → Prop
  | same (n : Node) : Turned s w free n n
  | inside {n n' : Node} (h : Rewrapped s w n n') : Turned s w free n n'
  | site (h : free) : Turned s w free s w

theorem Turned.imp {s w n n' : Node} {p q : Prop} (hpq : p → q) (h : Turned s w p n n') :
    Turned s w q n n' := by
  cases h with
  | same n => exact .same n
  | inside h => exact .inside h
  | site h => exact .site (hpq h)

/-! ### Roots and children -/

section

variable {s w n n' : Node} {free : Prop}

theorem Rewrapped.kind_eq (h : Rewrapped s w n n') : n'.kind = n.kind := by
  cases h <;> rfl

theorem Turned.kind_eq (h : Turned s w False n n') : n'.kind = n.kind := by
  cases h with
  | same n => rfl
  | inside h => exact h.kind_eq
  | site h => exact h.elim

theorem Turned.role_eq (hw : w.Wraps s) (h : Turned s w free n n') : n'.role = n.role := by
  cases h with
  | same n => rfl
  | inside h => cases h <;> rfl
  | site h => exact hw.role

theorem Wraps.kind_ne_case (hw : w.Wraps s) : s.kind ≠ .case := by
  intro hk
  have h := hw.labels
  rw [itemLabels_eq, if_pos hk, caseLabel] at h
  split at h <;> simp at h

theorem Wraps.kind_ne_lambda (hw : w.Wraps s) : s.kind ≠ .lambda := by
  intro hk
  exact hw.alone (by simp [hk])

/-- The kinds by which the parts of a construct are told apart. -/
def partKinds : List Kind := [.identifier, .lambda, .catchClause, .elseClause, .case]

theorem Turned.kind_eq_iff (hw : w.Wraps s) (h : Turned s w free n n') {k : Kind}
    (hk : k ∈ partKinds) : n'.kind = k ↔ n.kind = k := by
  cases h with
  | same n => rfl
  | inside h => rw [h.kind_eq]
  | site h =>
    have hs := hw.alone
    have hcase := hw.kind_ne_case
    rw [hw.kind]
    simp only [partKinds, List.mem_cons, List.not_mem_nil, or_false, not_or] at hk hs
    rcases hk with rfl | rfl | rfl | rfl | rfl <;> simp_all

/-- A part of a construct is no statement, so it is not wrapped. -/
theorem Turned.of_kind (hw : w.Wraps s) (h : Turned s w free n n') (hk : n.kind ∈ partKinds) :
    Turned s w False n n' := by
  cases h with
  | same n => exact .same n
  | inside h => exact .inside h
  | site h =>
    have hs := hw.alone
    have hcase := hw.kind_ne_case
    simp_all [partKinds]

theorem forall₂_turned_refl (ns : List Node) : List.Forall₂ (Turned s w free) ns ns :=
  List.forall₂_same.2 fun n _ => .same n

/-- The children of two trees that differ in one place. -/
theorem Rewrapped.forall₂_children (h : Rewrapped s w n n') :
    List.Forall₂ (Turned s w (n.Admits s)) n.children n'.children := by
  cases h with
  | child _ hc h =>
    rw [hc]
    exact List.rel_append (forall₂_turned_refl _) (.cons (.site h) (forall₂_turned_refl _))
  | deeper _ hc h =>
    rw [hc]
    exact List.rel_append (forall₂_turned_refl _) (.cons (.inside h) (forall₂_turned_refl _))

theorem Turned.forall₂_children (h : Turned s w False n n') :
    List.Forall₂ (Turned s w (n.Admits s)) n.children n'.children := by
  cases h with
  | same n => exact forall₂_turned_refl _
  | inside h => exact h.forall₂_children
  | site h => exact h.elim

theorem forall₂_find? {R : Node → Node → Prop} {p : Node → Bool} {ns ns' : List Node}
    (hp : ∀ m m', R m m' → p m' = p m) (h : List.Forall₂ R ns ns') :
    List.Forall₂ (fun m m' => R m m' ∧ p m) (ns.find? p).toList (ns'.find? p).toList := by
  induction h with
  | nil => exact .nil
  | @cons m m' ms ms' hm _ ih =>
    rw [List.find?_cons, List.find?_cons, hp m m' hm]
    split
    · next h => exact .cons ⟨hm, h⟩ .nil
    · exact ih

theorem forall₂_filter {R : Node → Node → Prop} {p : Node → Bool} {ns ns' : List Node}
    (hp : ∀ m m', R m m' → p m' = p m) (h : List.Forall₂ R ns ns') :
    List.Forall₂ (fun m m' => R m m' ∧ p m) (ns.filter p) (ns'.filter p) := by
  induction h with
  | nil => exact .nil
  | @cons m m' ms ms' hm _ ih =>
    rw [List.filter_cons, List.filter_cons, hp m m' hm]
    split
    · next h => exact .cons ⟨hm, h⟩ ih
    · exact ih

theorem map_eq_of_forall₂ {α β : Type} {R : α → α → Prop} {f : α → β} {as as' : List α}
    (h : List.Forall₂ R as as') (hf : ∀ a ∈ as, ∀ a', R a a' → f a' = f a) :
    as'.map f = as.map f := by
  induction h with
  | nil => rfl
  | @cons a a' _ _ ha _ ih =>
    have hrest := ih fun b hb => hf b (List.mem_cons_of_mem a hb)
    rw [List.map_cons, List.map_cons, hf a List.mem_cons_self a' ha, hrest]

/-- The children in a role. -/
theorem Turned.forall₂_childWithRole? (hw : w.Wraps s) (h : Turned s w False n n') (role : Role) :
    List.Forall₂ (Turned s w (n.Admits s ∧ s.role = some role)) (n.childWithRole? role).toList
      (n'.childWithRole? role).toList := by
  refine (forall₂_find? (fun m m' hm => ?_) h.forall₂_children).imp ?_
  · rw [hm.role_eq hw]
  · rintro m m' ⟨hm, hrole⟩
    cases hm with
    | same m => exact .same m
    | inside hm => exact .inside hm
    | site hm => exact .site ⟨hm, by simpa using hrole⟩

theorem Turned.childWithRole?_eq_none_iff (hw : w.Wraps s) (h : Turned s w False n n')
    (role : Role) : n'.childWithRole? role = none ↔ n.childWithRole? role = none := by
  have := (h.forall₂_childWithRole? hw role).length_eq
  cases h : n.childWithRole? role <;> cases h' : n'.childWithRole? role <;> simp_all

theorem exists_of_mem_right {R : Node → Node → Prop} {ns ns' : List Node}
    (h : List.Forall₂ R ns ns') {m' : Node} (hm' : m' ∈ ns') : ∃ m ∈ ns, R m m' := by
  induction h with
  | nil => cases hm'
  | @cons k k' _ _ hk _ ih =>
    rcases List.mem_cons.1 hm' with rfl | hm'
    · exact ⟨k, List.mem_cons_self, hk⟩
    · obtain ⟨m, hm, hmm'⟩ := ih hm'
      exact ⟨m, List.mem_cons_of_mem k hm, hmm'⟩

/-! ### Expressions -/

/-- The outermost lambdas of related trees. -/
theorem forall₂_outermostLambdas (hw : w.Wraps s) {ns ns' : List Node}
    (h : List.Forall₂ (Turned s w True) ns ns') :
    List.Forall₂ (Turned s w False) (outermostLambdas ns) (outermostLambdas ns') := by
  induction ns using outermostLambdas.induct generalizing ns' with
  | case1 =>
    cases h
    simp [outermostLambdas]
  | case2 n rest hk ih =>
    obtain ⟨n', rest', hn, hrest, rfl⟩ := List.forall₂_cons_left_iff.1 h
    have hk' : n'.kind = .lambda := (hn.kind_eq_iff hw (by simp [partKinds])).2 hk
    rw [outermostLambdas, outermostLambdas, if_pos hk, if_pos hk']
    exact .cons (hn.of_kind hw (by simp [hk, partKinds])) (ih hrest)
  | case3 n rest hk ih =>
    obtain ⟨n', rest', hn, hrest, rfl⟩ := List.forall₂_cons_left_iff.1 h
    have hk' : n'.kind ≠ .lambda := fun h => hk ((hn.kind_eq_iff hw (by simp [partKinds])).1 h)
    rw [outermostLambdas, outermostLambdas, if_neg hk, if_neg hk']
    cases hn with
    | same n => exact ih (List.rel_append (forall₂_turned_refl _) hrest)
    | inside h =>
      refine ih (List.rel_append (h.forall₂_children.imp fun m m' hm => ?_) hrest)
      exact hm.imp fun _ => trivial
    | site _ =>
      -- below the wrapper there is the statement, which is no lambda
      obtain ⟨role, hc⟩ := hw.children
      rw [hc, List.singleton_append, outermostLambdas, if_neg hk]
      exact ih (List.rel_append (forall₂_turned_refl _) hrest)

/-- What is reached outside of the lambdas of related trees, counted by kind. -/
theorem countP_outside_eq (hw : w.Wraps s) {ns ns' : List Node} {k : Kind} (hk : k ≠ .other)
    (h : List.Forall₂ (Turned s w True) ns ns') :
    (outside ns').countP (fun m => m.kind == k) = (outside ns).countP (fun m => m.kind == k) := by
  induction ns using outside.induct generalizing ns' with
  | case1 =>
    cases h
    rfl
  | case2 n rest ih =>
    obtain ⟨n', rest', hn, hrest, rfl⟩ := List.forall₂_cons_left_iff.1 h
    simp only [dite_eq_ite] at ih
    have hl : n'.isOutsideLambda = n.isOutsideLambda := by
      have := hn.kind_eq_iff hw (k := .lambda) (by simp [partKinds])
      rw [Bool.eq_iff_iff]
      simp [isOutsideLambda, this]
    have happend : ∀ {cs cs' : List Node}, List.Forall₂ (Turned s w True) cs cs' →
        List.Forall₂ (Turned s w True) (if n.isOutsideLambda then cs ++ rest else rest)
          (if n.isOutsideLambda then cs' ++ rest' else rest') := by
      intro cs cs' hcs
      split
      · exact List.rel_append hcs hrest
      · exact hrest
    rw [outside, outside, List.countP_cons, List.countP_cons, hl]
    cases hn with
    | same n => rw [ih (happend (forall₂_turned_refl _))]
    | inside h =>
      rw [h.kind_eq, ih (happend (h.forall₂_children.imp fun m m' hm => hm.imp fun _ => trivial))]
    | site _ =>
      obtain ⟨role, hc⟩ := hw.children
      have hs : s.isOutsideLambda = true := by simpa [isOutsideLambda] using hw.kind_ne_lambda
      have hsame := ih (happend (forall₂_turned_refl _))
      simp only [hs, if_true] at hsame ⊢
      have hbeneath : ({ s with role } : Node).isOutsideLambda = true := hs
      rw [hc, List.singleton_append, outside, hbeneath, if_pos rfl, List.countP_cons, hsame]
      simp [hw.kind, hk.symm]

theorem Turned.countLogical_eq (hw : w.Wraps s) (h : Turned s w free n n') :
    n'.countLogical = n.countLogical := by
  rw [countLogical, countLogical, countWhere, countWhere, countPending_eq, countPending_eq,
    countP_outside_eq hw (by simp) (.cons (h.imp fun _ => trivial) .nil)]

theorem Turned.countConditionals_eq (hw : w.Wraps s) (h : Turned s w free n n') :
    n'.countConditionals = n.countConditionals := by
  rw [countConditionals, countConditionals, countWhere, countWhere, countPending_eq,
    countPending_eq, countP_outside_eq hw (by simp) (.cons (h.imp fun _ => trivial) .nil)]

theorem Turned.forall₂_lambdasBelow (hw : w.Wraps s) (h : Turned s w free n n') :
    List.Forall₂ (Turned s w False) n.lambdasBelow n'.lambdasBelow := by
  rw [lambdasBelow, lambdasBelow]
  cases h with
  | same n => exact forall₂_turned_refl _
  | inside h =>
    exact forall₂_outermostLambdas hw (h.forall₂_children.imp fun m m' hm => hm.imp fun _ => trivial)
  | site _ =>
    obtain ⟨role, hc⟩ := hw.children
    rw [hc, outermostLambdas, if_neg hw.kind_ne_lambda, List.append_nil]
    exact forall₂_turned_refl _

/-! ### Items -/

theorem forall₂_groupItems (hw : w.Wraps s) (h : Turned s w False n n') :
    List.Forall₂ (Turned s w True) (groupItems n) (groupItems n') := by
  refine (forall₂_filter (fun m m' hm => ?_) h.forall₂_children).imp
    fun m m' hm => hm.1.imp fun _ => trivial
  have := hm.kind_eq_iff hw (k := .identifier) (by simp [partKinds])
  rw [isGroupItem, isGroupItem, hm.role_eq hw]
  congr 1
  rw [Bool.eq_iff_iff]
  simp [this]

theorem Turned.caseLabel_eq (hw : w.Wraps s) (h : Turned s w False n n') :
    caseLabel n' = caseLabel n := by
  have := h.childWithRole?_eq_none_iff hw .value
  rw [caseLabel, caseLabel]
  cases hv : n.childWithRole? .value <;> cases hv' : n'.childWithRole? .value <;> simp_all

/-- The labels that related trees bring to a switch. -/
theorem Turned.itemLabels_eq (hw : w.Wraps s) (h : Turned s w free n n') :
    itemLabels n' = itemLabels n := by
  induction n using nodes.induct generalizing n' free with
  | case1 n ih =>
    cases h with
    | same n => rfl
    | site _ =>
      rw [Visit.itemLabels_eq w, hw.labels, if_neg (by simp [hw.kind]), if_neg (by simp [hw.kind])]
    | inside h =>
      have hn : Turned s w False n n' := .inside h
      have hitems : (groupItems n').map itemLabels = (groupItems n).map itemLabels :=
        map_eq_of_forall₂ (forall₂_groupItems hw hn) fun c hc c' h =>
          ih ⟨c, (List.mem_filter.1 hc).1⟩ h
      rw [Visit.itemLabels_eq n', Visit.itemLabels_eq n, hn.kind_eq, hn.caseLabel_eq hw, hitems]

end

end Cst.Node

open Cst.Node

namespace Build.Visit

variable {s w : Node}

/-- **Two visits in lockstep**: the same but for their nodes, which are related. The nodes may be
the statement and its wrapper only where a statement may stand. -/
def Lockstep (s w : Node) (v v' : Visit) : Prop :=
  ∃ n', Turned s w (v.position ∉ [.lambda, .rung]) v.node n' ∧ v' = { v with node := n' }

section

variable {v : Visit} {n' : Node}

theorem construct_eq (h : Turned s w False v.node n') :
    construct { v with node := n' } = v.construct := by
  simp [construct, h.kind_eq]

theorem opens_eq (h : Turned s w False v.node n') : opens { v with node := n' } = v.opens := by
  unfold opens
  rw [h.kind_eq]

theorem inside_eq (h : Turned s w False v.node n') : inside { v with node := n' } = v.inside := by
  rw [inside, inside, opens_eq h]

theorem beside_eq (h : Turned s w False v.node n') : beside { v with node := n' } = v.beside := by
  funext p m
  simp [beside, inside_eq h]

theorem below_eq (h : Turned s w False v.node n') : below { v with node := n' } = v.below := by
  funext p m
  simp [below, inside_eq h]

/-- Related nodes that are met in the same way. -/
theorem forall₂_lockstep {p : Position} {d o : Nat} {free : Prop} {ns ns' : List Node}
    (hp : free → p ∉ [.lambda, .rung]) (h : List.Forall₂ (Turned s w free) ns ns') :
    List.Forall₂ (Lockstep s w) (ns.map fun m => ⟨p, m, d, o⟩) (ns'.map fun m => ⟨p, m, d, o⟩) := by
  rw [List.forall₂_map_left_iff, List.forall₂_map_right_iff]
  exact h.imp fun m m' hm => ⟨m', hm.imp hp, rfl⟩

theorem forall₂_beside {p : Position} (hp : p ∉ [.lambda, .rung]) {free : Prop}
    {ns ns' : List Node} (h : List.Forall₂ (Turned s w free) ns ns') :
    List.Forall₂ (Lockstep s w) (ns.map (v.beside p)) (ns'.map (v.beside p)) :=
  forall₂_lockstep (fun _ => hp) h

theorem forall₂_below {p : Position} (hp : p ∉ [.lambda, .rung]) {free : Prop}
    {ns ns' : List Node} (h : List.Forall₂ (Turned s w free) ns ns') :
    List.Forall₂ (Lockstep s w) (ns.map (v.below p)) (ns'.map (v.below p)) :=
  forall₂_lockstep (fun _ => hp) h

theorem forall₂_flatMap {α β γ δ : Type} {R : α → β → Prop} {S : γ → δ → Prop} {f : α → List γ}
    {g : β → List δ} {as : List α} {bs : List β} (h : List.Forall₂ R as bs)
    (hfg : ∀ a b, R a b → List.Forall₂ S (f a) (g b)) :
    List.Forall₂ S (as.flatMap f) (bs.flatMap g) := by
  induction h with
  | nil => exact .nil
  | @cons a b _ _ hab _ ih =>
    rw [List.flatMap_cons, List.flatMap_cons]
    exact List.rel_append (hfg a b hab) ih

theorem forall₂_lambdasIn (hw : w.Wraps s) {m m' : Node} {free : Prop} (h : Turned s w free m m') :
    List.Forall₂ (Lockstep s w) (v.lambdasIn m) (v.lambdasIn m') :=
  forall₂_lockstep False.elim (h.forall₂_lambdasBelow hw)

theorem forall₂_conditionLambdas (hw : w.Wraps s) (h : Turned s w False v.node n') :
    List.Forall₂ (Lockstep s w) v.conditionLambdas (conditionLambdas { v with node := n' }) := by
  have hl : lambdasIn { v with node := n' } = v.lambdasIn := by
    funext m
    rw [lambdasIn, lambdasIn, beside_eq h]
  rw [conditionLambdas, conditionLambdas, hl]
  exact forall₂_flatMap (h.forall₂_childWithRole? hw .condition) fun c c' hc =>
    forall₂_lambdasIn hw hc

theorem forall₂_headers (hw : w.Wraps s) (h : Turned s w False v.node n') :
    List.Forall₂ (Turned s w (v.node.Admits s)) v.headers (headers { v with node := n' }) :=
  (forall₂_filter (fun m m' hm => by rw [hm.role_eq hw]) h.forall₂_children).imp fun _ _ => And.left

theorem forall₂_enclosed (hw : w.Wraps s) (h : Turned s w False v.node n') {m m' : Node}
    (hm : Turned s w False m m') (role : Role) :
    List.Forall₂ (Lockstep s w) (v.enclosed m role) (enclosed { v with node := n' } m' role) := by
  rw [enclosed, enclosed, below_eq h]
  exact forall₂_below (by simp) (hm.forall₂_childWithRole? hw role)

/-- The items of a switch: its body is the same or has the wrapper in it. -/
theorem forall₂_items (hw : w.Wraps s) (h : Turned s w False v.node n')
    (hk : v.node.kind = .switch) :
    List.Forall₂ (Lockstep s w) v.items (items { v with node := n' }) := by
  rw [items, items, below_eq h]
  refine forall₂_flatMap (h.forall₂_childWithRole? hw .body) fun b b' hb => ?_
  have hb : Turned s w False b b' := hb.imp fun hs => hs.1.switchBody hk hs.2
  exact forall₂_below (by simp) hb.forall₂_children

theorem forall₂_catchClauses (hw : w.Wraps s) {n n' : Node} (h : Turned s w False n n') :
    List.Forall₂ (Turned s w False) (n.childrenOfKind .catchClause)
      (n'.childrenOfKind .catchClause) := by
  refine (forall₂_filter (fun m m' hm => ?_) h.forall₂_children).imp ?_
  · have := hm.kind_eq_iff hw (k := .catchClause) (by simp [partKinds])
    rw [Bool.eq_iff_iff]
    simpa using this
  · rintro m m' ⟨hm, hk⟩
    have hk : m.kind = .catchClause := by simpa using hk
    exact hm.of_kind hw (by simp [hk, partKinds])

theorem forall₂_handlers (hw : w.Wraps s) (h : Turned s w False v.node n') :
    List.Forall₂ (List.Forall₂ (Lockstep s w)) v.handlers (handlers { v with node := n' }) := by
  rw [handlers, handlers, List.forall₂_map_left_iff, List.forall₂_map_right_iff]
  exact (forall₂_catchClauses hw h).imp fun c c' hc => forall₂_enclosed hw h hc .body

/-- The alternatives of an `if`: where a statement is wrapped, it is no `if`. -/
theorem forall₂_alternative? (hw : w.Wraps s) {n n' : Node} (h : Turned s w False n n')
    (hk : n.kind = .ifStatement) :
    List.Forall₂ (Turned s w (s.kind ≠ .ifStatement)) (alternative? n).toList
      (alternative? n').toList := by
  rw [alternative?, alternative?, Option.toList_bind, Option.toList_bind]
  refine forall₂_flatMap (h.forall₂_childWithRole? hw .alternative) fun a a' ha => ?_
  have hkind := ha.kind_eq_iff hw (k := .elseClause) (by simp [partKinds])
  simp only [Function.comp_apply]
  by_cases he : a.kind = .elseClause
  · have hchildren := (ha.of_kind hw (by simp [he, partKinds])).forall₂_children
    rw [if_pos he, if_pos (hkind.2 he)]
    generalize a.children = cs at hchildren ⊢
    generalize a'.children = cs' at hchildren ⊢
    cases hchildren with
    | nil => exact .nil
    | cons hc _ => exact .cons (hc.imp fun hs hi => (hs.ladder hi).1 he) .nil
  · rw [if_neg he, if_neg fun h => he (hkind.1 h)]
    exact .cons (ha.imp fun hs hi => (hs.1.ladder hi).2 hk hs.2) .nil

theorem forall₂_visitAlternative (hw : w.Wraps s) (h : Turned s w False v.node n') {a a' : Node}
    (ha : Turned s w (s.kind ≠ .ifStatement) a a') :
    Lockstep s w (v.visitAlternative a) (visitAlternative { v with node := n' } a') := by
  have hk : a'.kind = .ifStatement ↔ a.kind = .ifStatement := by
    cases ha with
    | same a => rfl
    | inside ha => rw [ha.kind_eq]
    | site ha => simp [hw.kind, ha]
  unfold visitAlternative
  rw [beside_eq h, below_eq h]
  by_cases hi : a.kind = .ifStatement
  · rw [if_pos hi, if_pos (hk.2 hi)]
    refine ⟨a', ?_, rfl⟩
    cases ha with
    | same a => exact .same a
    | inside ha => exact .inside ha
    | site ha => exact absurd hi ha
  · rw [if_neg hi, if_neg fun h => hi (hk.1 h)]
    exact ⟨a', ha.imp fun _ => by simp [below], rfl⟩

/-- **Visits in lockstep lead to visits in lockstep.** -/
theorem forall₂_next (hw : w.Wraps s) (h : Turned s w False v.node n') :
    List.Forall₂ (Lockstep s w) v.next (next { v with node := n' }) := by
  have hstatement : Position.statement ∉ [Position.lambda, Position.rung] := by simp
  have hlambdas : lambdasIn { v with node := n' } = v.lambdasIn := by
    funext m
    rw [lambdasIn, lambdasIn, beside_eq h]
  rw [next, next, construct_eq h]
  cases hc : v.construct <;> simp only [beside_eq h, hlambdas]
  case directive | clause => exact .nil
  case plain => exact forall₂_lambdasIn hw h
  case lambda => exact forall₂_beside (by simp) (h.forall₂_childWithRole? hw .body)
  case braces => exact forall₂_beside hstatement h.forall₂_children
  case group =>
    have hp : groupPosition { v with node := n' } = v.groupPosition := rfl
    rw [hp]
    refine forall₂_beside ?_ (forall₂_groupItems hw h)
    unfold groupPosition
    split <;> simp
  case labeled =>
    refine forall₂_beside hstatement ((forall₂_filter (fun m m' hm => ?_) h.forall₂_children).imp
      fun m m' => And.left)
    have := hm.kind_eq_iff hw (k := .identifier) (by simp [partKinds])
    rw [Bool.eq_iff_iff]
    simp [this]
  case case =>
    refine forall₂_beside hstatement ((forall₂_filter (fun m m' hm => ?_) h.forall₂_children).imp
      fun m m' => And.left)
    rw [hm.role_eq hw]
  case ifElse =>
    refine List.rel_append (List.rel_append (forall₂_conditionLambdas hw h)
      (forall₂_enclosed hw h h .consequence)) ?_
    rw [List.forall₂_map_left_iff, List.forall₂_map_right_iff]
    exact (forall₂_alternative? hw h (kind_of_ifElse hc)).imp fun a a' ha =>
      forall₂_visitAlternative hw h ha
  case loop =>
    refine List.rel_append ?_ (forall₂_enclosed hw h h .body)
    exact forall₂_flatMap (forall₂_headers hw h) fun m m' hm => forall₂_lambdasIn hw hm
  case switch =>
    have hk : v.node.kind = .switch := by
      rw [construct_of_position (position_ne_lambda_iff.2 (by simp [hc]))] at hc
      cases hk : v.node.kind <;> simp_all [Construct.ofKind]
    exact List.rel_append (forall₂_conditionLambdas hw h) (forall₂_items hw h hk)
  case tryCatch =>
    refine List.rel_append (forall₂_enclosed hw h h .body) ?_
    exact List.rel_flatten (forall₂_handlers hw h)

/-! ### Faults -/

/-- The visit of a tree with the wrapper below its root has no fault where the visit of the tree
has none. -/
theorem not_offends_of_turned (hw : w.Wraps s) (h : Turned s w False v.node n')
    (hv : ∀ e, ¬v.Offends e) (e : NormalizationError) : ¬Offends { v with node := n' } e := by
  rintro ⟨n, fault, hf, rfl⟩
  have hnone := fun role => (h.childWithRole?_eq_none_iff hw role).1
  cases hf with
  | missingConsequence hc hn =>
    exact hv _ (HasFault.missingConsequence (construct_eq h ▸ hc) (hnone _ hn)).offends
  | missingLoopBody hc hn =>
    exact hv _ (HasFault.missingLoopBody (construct_eq h ▸ hc) (hnone _ hn)).offends
  | missingSwitchBody hc hn =>
    exact hv _ (HasFault.missingSwitchBody (construct_eq h ▸ hc) (hnone _ hn)).offends
  | missingTryBody hc hn =>
    exact hv _ (HasFault.missingTryBody (construct_eq h ▸ hc) (hnone _ hn)).offends
  | misplacedCase hc hp =>
    exact hv _ (HasFault.misplacedCase (v := v) (construct_eq h ▸ hc) hp).offends
  | misplacedClause hc => exact hv _ (HasFault.misplacedClause (construct_eq h ▸ hc)).offends
  | nestedTooDeep ho hl =>
    exact hv _ (HasFault.nestedTooDeep (v := v) (opens_eq h ▸ ho) hl).offends
  | elseWithoutStatement hc ha hk hn =>
    obtain ⟨clause, hclause, hturned⟩ :=
      exists_of_mem_right (h.forall₂_childWithRole? hw .alternative) (Option.mem_toList.2 ha)
    have hkind := (hturned.kind_eq_iff hw (by simp [partKinds])).1 hk
    have hchildren := (hturned.of_kind hw (by simp [hkind, partKinds])).forall₂_children
    rw [hn, List.forall₂_nil_right_iff] at hchildren
    exact hv _ (HasFault.elseWithoutStatement (construct_eq h ▸ hc) (Option.mem_toList.1 hclause)
      hkind hchildren).offends
  | missingCatchBody hc hk hn =>
    obtain ⟨clause, hclause, hturned⟩ := exists_of_mem_right (forall₂_catchClauses hw h) hk
    exact hv _ (HasFault.missingCatchBody (construct_eq h ▸ hc) hclause
      ((hturned.childWithRole?_eq_none_iff hw .body).1 hn)).offends

/-! ### All visits -/

/-- **Visits of two bodies, one by one.** They are in lockstep, but for those of the statements that
are wrapped in the second body; the wrapped statements are listed as they are met. -/
inductive Along (s w : Node) : List Visit → List Visit → List Visit → Prop
  | nil : Along s w [] [] []
  | cons {v : Visit} {n' : Node} {vs vs' us : List Visit} (h : Turned s w False v.node n')
      (hrest : Along s w vs vs' us) : Along s w (v :: vs) ({ v with node := n' } :: vs') us
  | site {u : Visit} {vs vs' us : List Visit} (hu : u.node = s)
      (hp : u.position ∉ [.lambda, .rung]) (hrest : Along s w vs vs' us) :
      Along s w (u.visits ++ vs) (visits { u with node := w } ++ vs') (u :: us)

namespace Along

variable {vs vs' ws ws' us us' : List Visit}

theorem refl (vs : List Visit) : Along s w vs vs [] := by
  induction vs with
  | nil => exact .nil
  | cons v vs ih => exact .cons (.same v.node) ih

theorem append (h : Along s w vs vs' us) (h' : Along s w ws ws' us') :
    Along s w (vs ++ ws) (vs' ++ ws') (us ++ us') := by
  induction h with
  | nil => exact h'
  | cons h _ ih => exact .cons h ih
  | site hu hp _ ih =>
    rw [List.append_assoc, List.append_assoc]
    exact .site hu hp ih

theorem of_mem (h : Along s w vs vs' us) {u : Visit} (hu : u ∈ us) :
    u.node = s ∧ u.position ∉ [.lambda, .rung] ∧ u.visits ⊆ vs ∧
      visits { u with node := w } ⊆ vs' := by
  induction h with
  | nil => cases hu
  | cons _ _ ih =>
    obtain ⟨hn, hp, hvs, hvs'⟩ := ih hu
    exact ⟨hn, hp, List.subset_cons_of_subset _ hvs, List.subset_cons_of_subset _ hvs'⟩
  | site hn hp _ ih =>
    rcases List.mem_cons.1 hu with rfl | hu
    · exact ⟨hn, hp, List.subset_append_left _ _, List.subset_append_left _ _⟩
    · obtain ⟨hn, hp, hvs, hvs'⟩ := ih hu
      exact ⟨hn, hp, List.subset_append_of_subset_right _ hvs,
        List.subset_append_of_subset_right _ hvs'⟩

/-- What is met is not at fault if neither the first body nor a wrapper is. -/
theorem not_faults (hw : w.Wraps s) (h : Along s w vs vs' us) (hvs : ∀ e, ¬Faults vs e)
    (hus : ∀ u ∈ us, ∀ e, ¬Faults (visits { u with node := w }) e) (e : NormalizationError) :
    ¬Faults vs' e := by
  induction h with
  | nil => exact faults_nil e
  | @cons v n' vs vs' us hn _ ih =>
    simp only [faults_cons, not_or] at hvs ⊢
    exact ⟨not_offends_of_turned hw hn (fun e => (hvs e).1) e, ih (fun e => (hvs e).2) hus⟩
  | @site u vs vs' us _ _ _ ih =>
    simp only [faults_append, not_or] at hvs ⊢
    exact ⟨hus u List.mem_cons_self e,
      ih (fun e => (hvs e).2) fun k hk => hus k (List.mem_cons_of_mem u hk)⟩

end Along

theorem exists_along_flatMap {vs vs' : List Visit} (h : List.Forall₂ (Lockstep s w) vs vs')
    (hv : ∀ v ∈ vs, ∀ v', Lockstep s w v v' → ∃ us, Along s w v.visits v'.visits us) :
    ∃ us, Along s w (vs.flatMap visits) (vs'.flatMap visits) us := by
  induction h with
  | nil => exact ⟨[], .nil⟩
  | @cons v v' vs vs' hvv' _ ih =>
    obtain ⟨us, hus⟩ := hv v List.mem_cons_self v' hvv'
    obtain ⟨us', hus'⟩ := ih fun u hu => hv u (List.mem_cons_of_mem v hu)
    exact ⟨us ++ us', hus.append hus'⟩

/-- **Visits in lockstep go on in lockstep**, down to the wrapped statement. -/
theorem exists_along (hw : w.Wraps s) {v v' : Visit} (h : Lockstep s w v v') :
    ∃ us, Along s w v.visits v'.visits us := by
  induction v using visits.induct generalizing v' with
  | case1 v ih =>
    obtain ⟨n', hn, rfl⟩ := h
    have hinside : Turned s w False v.node n' →
        ∃ us, Along s w v.visits (visits { v with node := n' }) us := by
      intro hn
      rw [visits_eq v, visits_eq { v with node := n' }]
      obtain ⟨us, hus⟩ := exists_along_flatMap (forall₂_next hw hn) fun u hu u' h => ih ⟨u, hu⟩ h
      exact ⟨us, .cons hn hus⟩
    rcases v with ⟨p, n, d, o⟩
    cases hn with
    | same n => exact hinside (.same n)
    | inside h => exact hinside (.inside h)
    | site hp => exact ⟨[⟨p, n, d, o⟩], by simpa using Along.site rfl hp Along.nil⟩

end

end Build.Visit

end CodeMetrics
