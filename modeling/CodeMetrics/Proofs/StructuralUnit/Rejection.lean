import CodeMetrics.Proofs.Statement.Exact
import CodeMetrics.Proofs.StructuralUnit.DeclaredNames
import CodeMetrics.StructuralModel

/-!
# Which trees are rejected

A tree has no structural model exactly if there is a fault in it, and it is then rejected with one
of its faults. A fault is either a function definition that does not say which function it defines,
or a fault of a node visited in the body of a callable (`StructuralUnit.Place.HasFault`).

`FailsWith` says of a computation that it fails exactly with some errors. It goes through every part
of the walk: bodies, places, and the places of a tree one after the other.
-/

namespace CodeMetrics

open Cst Build

/-- **A computation fails exactly if there are errors of some sort, and with one of them.** -/
def FailsWith {α : Type} (m : Except NormalizationError α) (F : NormalizationError → Prop) : Prop :=
  ((∃ a, m = .ok a) ∧ ∀ e, ¬F e) ∨ ∃ e, m = .error e ∧ F e

namespace FailsWith

variable {α β : Type} {m : Except NormalizationError α} {F G : NormalizationError → Prop}

theorem ok (a : α) : FailsWith (.ok a) fun _ => False := Or.inl ⟨⟨a, rfl⟩, fun _ => id⟩

theorem bind {f : α → Except NormalizationError β} (hm : FailsWith m F)
    (hf : ∀ a, FailsWith (f a) G) : FailsWith (m >>= f) fun e => F e ∨ G e := by
  rcases hm with ⟨⟨a, rfl⟩, hF⟩ | ⟨e, rfl, he⟩
  · rcases hf a with ⟨⟨b, hb⟩, hG⟩ | ⟨e, hb, he⟩
    · exact Or.inl ⟨⟨b, hb⟩, fun e he => he.elim (hF e) (hG e)⟩
    · exact Or.inr ⟨e, hb, Or.inr he⟩
  · exact Or.inr ⟨e, rfl, Or.inl he⟩

theorem congr (h : FailsWith m F) (hFG : ∀ e, F e ↔ G e) : FailsWith m G := by
  obtain rfl : F = G := funext fun e => propext (hFG e)
  exact h

theorem map (f : α → β) (h : FailsWith m F) : FailsWith (m >>= fun a => .ok (f a)) F :=
  (h.bind fun a => ok (f a)).congr fun e => by simp

theorem exists_error_iff (h : FailsWith m F) : (∃ e, m = .error e) ↔ ∃ e, F e := by
  rcases h with ⟨⟨a, rfl⟩, hF⟩ | ⟨e, rfl, he⟩
  · constructor
    · rintro ⟨e, he⟩
      cases he
    · rintro ⟨e, he⟩
      exact absurd he (hF e)
  · exact ⟨fun _ => ⟨e, he⟩, fun _ => ⟨e, rfl⟩⟩

theorem of_error (h : FailsWith m F) {e : NormalizationError} (he : m = .error e) : F e := by
  rcases h with ⟨⟨a, rfl⟩, -⟩ | ⟨e', rfl, he'⟩
  · cases he
  · cases he
    exact he'

end FailsWith

namespace StructuralUnit

/-! ### Faults of places -/

/-- **What is wrong at a place**: which node has which fault. It is a function definition with a
body and without a name, or a node visited in the body of a callable. -/
inductive Place.HasFault (p : Place) : Node → NormalizationFault → Prop
  | unnamed (hk : p.node.kind = .functionDefinition)
      (hb : (p.node.childWithRole? .body).isSome) (hs : signature? p.node = none) :
      HasFault p p.node .unnamedFunction
  | body {b n : Node} {fault : NormalizationFault} {v : Visit} (hu : p.hasUnit)
      (hb : p.node.childWithRole? .body = some b) (hv : v ∈ (Visit.start b).visits)
      (h : v.HasFault n fault) : HasFault p n fault

namespace Place

/-- **A function is rejected for its name** exactly if it has a body and no text that names it: none
that it is declared by, or one that holds nothing before its first parenthesis. -/
theorem hasFault_unnamedFunction_iff {p : Place} {n : Node} :
    p.HasFault n .unnamedFunction ↔ n = p.node ∧ p.node.kind = .functionDefinition ∧
      (p.node.childWithRole? .body).isSome ∧
      ∀ t, declaredText? p.node = some t → Declarator.beforeParenthesis t = "" := by
  rw [← signature?_eq_none_iff]
  constructor
  · rintro (⟨hk, hb, hs⟩ | ⟨-, -, -, h⟩)
    · exact ⟨rfl, hk, hb, hs⟩
    · cases h
  · rintro ⟨rfl, hk, hb, hs⟩
    exact .unnamed hk hb hs

/-- The errors that a place is rejected with. -/
def Faults (p : Place) (e : NormalizationError) : Prop :=
  ∃ n fault, p.HasFault n fault ∧ e = errorAt n fault

theorem failsWith_ofBody (b : Node) :
    FailsWith (Build.ofBody b) (Build.Faults (Visit.start b).visits) := by
  cases h : Build.ofBody b with
  | ok built => exact Or.inl ⟨⟨built, rfl⟩, (ofBody_eq_ok h).2.2⟩
  | error e => exact Or.inr ⟨e, rfl, faults_of_ofBody_eq_error h⟩

/-- The faults of a callable with a name are those of its body. -/
theorem faults_iff {p : Place} {b : Node} (hu : p.hasUnit)
    (hb : p.node.childWithRole? .body = some b)
    (hs : p.node.kind = .functionDefinition → signature? p.node ≠ none) (e : NormalizationError) :
    p.Faults e ↔ Build.Faults (Visit.start b).visits e := by
  constructor
  · rintro ⟨n, fault, ⟨hk, -, hn⟩ | ⟨-, hb', hv, h⟩, rfl⟩
    · exact absurd hn (hs hk)
    · rw [hb] at hb'
      cases hb'
      exact ⟨_, hv, h.offends⟩
  · rintro ⟨v, hv, n, fault, h, rfl⟩
    exact ⟨n, fault, .body hu hb hv h, rfl⟩

theorem not_faults_of_not_hasUnit {p : Place} (hu : ¬p.hasUnit) (e : NormalizationError) :
    ¬p.Faults e := by
  rintro ⟨n, fault, ⟨hk, hb, -⟩ | ⟨hu', -⟩, rfl⟩
  · exact hu (by simp [hasUnit, hk, hb])
  · exact hu hu'

/-! ### Failing -/

theorem failsWith_lambda {lines : LineIndex} {scopes : List Scope} {p : Place} (hl : p.isLambda)
    (parent : Node) : FailsWith (ofLambda lines scopes p.node parent) p.Faults := by
  have hk : p.node.kind ≠ .functionDefinition := by
    simp [(exists_parent_of_isLambda hl).1]
  have hbody : FailsWith (bodyOf p.node) p.Faults := by
    unfold bodyOf
    cases hb : p.node.childWithRole? .body with
    | some b =>
      have hiff := faults_iff (by simp [hasUnit, hl]) hb fun h => absurd h hk
      exact (failsWith_ofBody b).congr fun e => (hiff e).symm
    | none =>
      refine (FailsWith.ok _).congr fun e => (iff_false_intro ?_).symm
      rintro ⟨n, fault, ⟨hk', -⟩ | ⟨-, hb', -⟩, rfl⟩
      · exact hk hk'
      · simp [hb] at hb'
  rw [ofLambda_eq]
  exact hbody.map _

theorem failsWith_function {lines : LineIndex} {known : List String} {scopes : List Scope}
    {p : Place} (hk : p.node.kind = .functionDefinition) :
    FailsWith (ofFunction? lines known scopes p.node) p.Faults := by
  unfold ofFunction?
  cases hb : p.node.childWithRole? .body with
  | none =>
    have hu : ¬p.hasUnit := by simp [hasUnit, isLambda, hk, hb]
    exact (FailsWith.ok _).congr fun e => (iff_false_intro (not_faults_of_not_hasUnit hu e)).symm
  | some b =>
    -- the name is looked for first, so a function without one is rejected whatever its body is
    cases hs : signature? p.node with
    | none => exact Or.inr ⟨_, rfl, p.node, _, .unnamed hk (by simp [hb]) hs, rfl⟩
    | some s =>
      have hiff := faults_iff (by simp [hasUnit, hk, hb]) hb fun _ => by simp [hs]
      exact ((failsWith_ofBody b).congr fun e => (hiff e).symm).map _

/-- **A place is rejected exactly if there is a fault at it.** -/
theorem failsWith_meet (lines : LineIndex) (w : WalkState) (p : Place) :
    FailsWith (p.meet lines w) p.Faults := by
  cases hl : p.isLambda with
  | true =>
    obtain ⟨-, parent, -, hs⟩ := exists_parent_of_isLambda hl
    rw [meet, hs]
    exact (failsWith_lambda hl parent).map _
  | false =>
    rw [meet, step_of_not_isLambda hl, Step.run]
    split
    · next hk => exact (failsWith_function hk).map _
    · next hk =>
      have hu : ¬p.hasUnit := by simp [hasUnit, hl, hk]
      exact (FailsWith.ok _).congr fun e => (iff_false_intro (not_faults_of_not_hasUnit hu e)).symm

/-- Places one after the other are rejected exactly if there is a fault at one of them. -/
theorem failsWith_foldlM_meet (lines : LineIndex) (w : WalkState) (ps : List Place) :
    FailsWith (ps.foldlM (meet lines) w) fun e => ∃ p ∈ ps, p.Faults e := by
  induction ps generalizing w with
  | nil => exact (FailsWith.ok w).congr (by simp)
  | cons p ps ih =>
    rw [List.foldlM_cons]
    exact ((failsWith_meet lines w p).bind ih).congr (by simp)

/-- A node with a fault lies in the tree of the place. -/
theorem HasFault.mem_nodes {p : Place} {n : Node} {fault : NormalizationFault}
    (h : p.HasFault n fault) : n ∈ p.node.nodes := by
  cases h with
  | unnamed hk hb hs => exact Node.mem_nodes_self _
  | body hu hb hv h =>
    have hbn := Node.nodesBelow_subset_nodes _
      (Node.mem_nodesBelow_of_mem_children (Node.mem_of_childWithRole? hb))
    have hvb := Visit.node_mem_nodes_of_mem_visits hv
    exact Node.nodes_subset_of_mem hbn (Node.nodes_subset_of_mem hvb h.mem_nodes)

end Place

theorem failsWith_collect (lines : LineIndex) (root : Node) :
    FailsWith (collect lines root) fun e => ∃ p ∈ (Place.root root).places, p.Faults e := by
  rw [collect_eq]
  exact (Place.failsWith_foldlM_meet lines {} _).map _

end StructuralUnit

namespace StructuralModel

open StructuralUnit

/-- **A document has no model exactly if there is a fault in its tree**, and it is then rejected
with the kind and the place of a node of the tree that has a fault. -/
theorem ofDocument_error_iff (d : Document) :
    ((∃ e, ofDocument d = .error e) ↔
        ∃ p ∈ (Place.root d.root).places, ∃ n fault, p.HasFault n fault) ∧
      ∀ e, ofDocument d = .error e →
        ∃ p ∈ (Place.root d.root).places, ∃ n ∈ d.root.nodes, ∃ fault, p.HasFault n fault ∧
          e.construct = n.kind.describe ∧ e.offset = n.span.start ∧ e.fault = fault := by
  have hfails : FailsWith (ofDocument d) fun e =>
      ∃ p ∈ (Place.root d.root).places, p.Faults e := (failsWith_collect d.lines d.root).map _
  refine ⟨hfails.exists_error_iff.trans ⟨?_, ?_⟩, fun e he => ?_⟩
  · rintro ⟨e, p, hp, n, fault, h, -⟩
    exact ⟨p, hp, n, fault, h⟩
  · rintro ⟨p, hp, n, fault, h⟩
    exact ⟨errorAt n fault, p, hp, n, fault, h, rfl⟩
  · obtain ⟨p, hp, n, fault, h, rfl⟩ := hfails.of_error he
    have hn := Node.nodes_subset_of_mem (Place.node_mem_nodes_of_mem_places hp) h.mem_nodes
    exact ⟨p, hp, n, hn, fault, h, rfl, rfl, rfl⟩

/-- A function with a case label outside of every switch. -/
def strayCase : Document where
  language := .c
  root := .bare .translationUnit none [
    .bare .functionDefinition none [
      .identifier .declarator "f",
      .bare .compound (some .body) [
        .bare .other none [], ⟨.case, { start := 7 }, none, none, []⟩]]]
  lines := ⟨[], []⟩

theorem ofDocument_error_strayCase :
    ofDocument strayCase = .error ⟨.case, 7, .outsideConstruct⟩ ∧
      ∃ p ∈ (Place.root strayCase.root).places, ∃ n ∈ strayCase.root.nodes,
        p.HasFault n .outsideConstruct ∧ n.kind.describe = "case label" ∧ n.span.start = 7 := by
  have h : ofDocument strayCase = .error ⟨.case, 7, .outsideConstruct⟩ := by cbv
  obtain ⟨p, hp, n, hn, fault, hfault, hkind, hstart, rfl⟩ := (ofDocument_error_iff strayCase).2 _ h
  exact ⟨h, p, hp, n, hn, hfault, hkind.symm, hstart.symm⟩

end StructuralModel

end CodeMetrics
