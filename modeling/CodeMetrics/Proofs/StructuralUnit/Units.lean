import CodeMetrics.Proofs.StructuralUnit.Traversal
import Mathlib

/-!
# The units of a tree

What the walk over a tree finds, place by place: `StructuralUnit.Place.meet_eq_ok` says what one
place adds to the names of namespaces and to the units, and
`StructuralUnit.collect_units` says which units a tree has, in which order, and what each is.
-/

namespace CodeMetrics.StructuralUnit

open Cst

namespace Place

/-! ### Qualifiers -/

theorem isQualifier_of_qualifierOf? {name q : String} (h : Scope.qualifierOf? name = some q) :
    IsQualifier name q := by
  obtain ⟨⟨before, after⟩, hcut, rfl⟩ := Option.map_eq_some_iff.1 h
  obtain ⟨heq, hlast⟩ := Text.isLastCut_of_splitLast? (by decide) hcut
  refine ⟨String.ofList after, ?_, fun q l hql => ?_⟩
  · rw [← String.toList_inj]
    simpa [Scope.separator] using heq
  · have := hlast q.toList l.toList (by simp [hql, Scope.separator])
    simpa [String.length_toList] using this

theorem not_isQualifier_of_qualifierOf? {name : String} (h : Scope.qualifierOf? name = none)
    (q : String) : ¬IsQualifier name q := by
  rintro ⟨last, hname, -⟩
  refine Text.splitLast?_eq_none (by decide) (Option.map_eq_none_iff.1 h) q.toList last.toList ?_
  simp [hname, Scope.separator]

/-- The type that the walk finds for a function is the one it belongs to. -/
theorem belongsTo_enclosingTypeOf {before : List Place} {known : List String} {p : Place}
    (hk : ∀ name, name ∈ known ↔ Known before name) (name : String) :
    BelongsTo before p name (enclosingTypeOf known p.scopes name) := by
  unfold enclosingTypeOf
  rw [innermostType?_scopes]
  cases ht : p.innermostType? with
  | some type => exact .around ht
  | none =>
    cases hq : Scope.qualifierOf? name with
    | none => exact .unqualified ht (not_isQualifier_of_qualifierOf? hq)
    | some q =>
      have hqualifier := isQualifier_of_qualifierOf? hq
      have hnames : Scope.namesNamespace known p.scopes q = true ↔
          Known before q ∨ Known before (p.qualify q) := by
        simp [Scope.namesNamespace, qualify_scopes, hk]
      rw [Option.filter_some]
      cases hn : Scope.namesNamespace known p.scopes q with
      | true => exact .ofNamespace ht hqualifier (hnames.1 hn)
      | false =>
        have hnot : ¬(Known before q ∨ Known before (p.qualify q)) := by simp [← hnames, hn]
        exact .qualifier ht hqualifier (mt Or.inl hnot) (mt Or.inr hnot)

/-! ### Meeting one place -/

/-- What the walk should remember after some places: the names of the namespaces opened there. -/
def Remembers (before : List Place) (w : WalkState) : Prop :=
  ∀ name, name ∈ w.namespaces ↔ Known before name

theorem remembers_nil : Remembers [] {} := fun name => by simp [Known]

theorem known_append {before after : List Place} {name : String} :
    Known (before ++ after) name ↔ Known before name ∨ Known after name := by
  simp only [Known, List.mem_append, or_and_right, exists_or]

theorem nameAs?_of_openedScope? {n : Node} {name : String} :
    openedScope? n = some (.ofNamespace name) ↔ nameAs? [.namespaceDefinition] n = some name := by
  unfold openedScope? nameAs? nameText?
  generalize (n.childWithRole? .name).bind Node.text = text
  cases n.kind <;> simp

theorem mem_openNamespace {known : List String} {p : Place} {name : String} :
    name ∈ openNamespace p.scopes known (openedScope? p.node) ↔ name ∈ known ∨ Known [p] name := by
  unfold openNamespace
  split
  · next opened ho =>
    rw [List.mem_append, qualify_scopes, mem_openedNames]
    simp [Known, nameAs?_of_openedScope?.1 ho]
  · next hne =>
    have hnone : ∀ opened, nameAs? [.namespaceDefinition] p.node ≠ some opened := fun opened ho =>
      hne opened (nameAs?_of_openedScope?.2 ho)
    simp [Known, hnone]

/-- What a unit is at a place after some others. -/
def Describes (lines : LineIndex) (q : List Place × Place) (u : StructuralUnit) : Prop :=
  q.2.IsFunction lines q.1 u ∨ q.2.IsLambda lines u

/-- The statements and the lambdas of the body of a lambda; none without a body. -/
def bodyOf (n : Node) : Except NormalizationError (List Statement × Nat) :=
  match n.childWithRole? .body with
  | some b => Build.ofBody b
  | none => .ok ([], 0)

theorem bodyOf_eq_ok {n : Node} {statements : List Statement} {lambdas : Nat}
    (h : bodyOf n = .ok (statements, lambdas)) :
    (∃ b, n.childWithRole? .body = some b ∧ Build.ofBody b = .ok (statements, lambdas)) ∨
      n.childWithRole? .body = none ∧ statements = [] ∧ lambdas = 0 := by
  unfold bodyOf at h
  split at h
  · next b hb => exact Or.inl ⟨b, hb, h⟩
  · next hb =>
    cases h
    exact Or.inr ⟨hb, rfl, rfl⟩

theorem ofLambda_eq (lines : LineIndex) (scopes : List Scope) (n parent : Node) :
    ofLambda lines scopes n parent = bodyOf n >>= fun body => .ok {
      name := Scope.qualify scopes (lambdaName parent)
      kind := .lambda
      parameterCount := Declarator.parameterCount (n.childWithRole? .declarator)
      body := body.1
      span := n.span
      enclosingType := Scope.innermostType? scopes
      lambdaCount := body.2
      realLines := lines.realBetween n.span.startLine n.span.endLine } := by
  unfold ofLambda bodyOf
  cases n.childWithRole? .body <;> rfl

section Meet

variable {lines : LineIndex} {before : List Place} {w w' : WalkState} {p : Place}

/-- The unit of a function definition; one without a body has none. -/
theorem ofFunction?_eq_ok {known : List String} {unit? : Option StructuralUnit}
    (hk : ∀ name, name ∈ known ↔ Known before name) (hn : p.node.kind = .functionDefinition)
    (h : ofFunction? lines known p.scopes p.node = .ok unit?) :
    (unit? = none ∧ p.node.childWithRole? .body = none) ∨
      ∃ u, unit? = some u ∧ p.IsFunction lines before u := by
  unfold ofFunction? at h
  split at h
  · next hb =>
    cases h
    exact Or.inl ⟨rfl, hb⟩
  · next b hb =>
    split at h
    · cases h
    · next s hs =>
      obtain ⟨⟨statements, lambdas⟩, hbody, hu⟩ := bind_eq_ok h
      cases hu
      refine Or.inr ⟨_, rfl, ?_⟩
      exact {
        span := rfl
        realLines := rfl
        node := hn
        signature := ⟨s, hs, qualify_scopes p s.name, rfl, belongsTo_enclosingTypeOf hk s.name⟩
        kind := rfl
        body := ⟨b, hb, hbody⟩ }

/-- The unit of a lambda. -/
theorem isLambda_of_ofLambda {parent : Node} {u : StructuralUnit} (hn : p.node.kind = .lambda)
    (hp : p.ancestors.getLast? = some parent)
    (h : ofLambda lines p.scopes p.node parent = .ok u) : p.IsLambda lines u := by
  rw [ofLambda_eq] at h
  obtain ⟨⟨statements, lambdas⟩, hbody, hu⟩ := bind_eq_ok h
  cases hu
  exact {
    span := rfl
    realLines := rfl
    node := hn
    name := ⟨parent, hp, qualify_scopes p _⟩
    parameterCount := rfl
    enclosingType := innermostType?_scopes p
    kind := rfl
    body := bodyOf_eq_ok hbody }

/-- A callable opens no namespace. -/
theorem known_of_isCallable {name : String} (h : p.isCallable) : ¬Known [p] name := by
  rintro ⟨q, hq, opened, ho, -⟩
  obtain rfl : q = p := List.mem_singleton.1 hq
  have hk : q.node.kind ≠ .namespaceDefinition := fun hk => by simp [isCallable, isLambda, hk] at h
  simp [nameAs?, hk] at ho

theorem reverse_units_add (w : WalkState) (unit? : Option StructuralUnit) :
    (w.add unit?).units.reverse = w.units.reverse ++ unit?.toList := by
  cases unit? <;> simp [WalkState.add]

/-- **What one place adds**: the names of the namespace that it opens, and its unit. -/
theorem meet_eq_ok (hw : Remembers before w) (h : p.meet lines w = .ok w') :
    Remembers (before ++ [p]) w' ∧ ∃ us, w'.units.reverse = w.units.reverse ++ us ∧
      List.Forall₂ (Describes lines) (if p.hasUnit then [(before, p)] else []) us := by
  have hcallable : p.isCallable → ∀ us, Remembers (before ++ [p]) (w.add us) := by
    intro hc us name
    simp only [known_append, known_of_isCallable hc, or_false]
    exact hw name
  cases hl : p.isLambda with
  | true =>
    obtain ⟨hk, parent, hp, hs⟩ := exists_parent_of_isLambda hl
    rw [meet, hs, Step.run] at h
    obtain ⟨u, hu, hadd⟩ := bind_eq_ok h
    cases hadd
    refine ⟨hcallable (by simp [isCallable, hl]) (some u), [u], reverse_units_add w (some u), ?_⟩
    rw [hasUnit, hl, Bool.true_or, if_pos rfl]
    exact .cons (Or.inr (isLambda_of_ofLambda hk hp hu)) .nil
  | false =>
    rw [meet, step_of_not_isLambda hl, Step.run] at h
    split at h
    · next hk =>
      obtain ⟨unit?, hu, hadd⟩ := bind_eq_ok h
      cases hadd
      refine ⟨hcallable (by simp [isCallable, hk]) unit?, unit?.toList,
        reverse_units_add w unit?, ?_⟩
      rcases ofFunction?_eq_ok hw hk hu with ⟨rfl, hb⟩ | ⟨u, rfl, hunit⟩
      · simp [hasUnit, hl, hb]
      · obtain ⟨b, hb, -⟩ := hunit.body
        rw [if_pos (by simp [hasUnit, hk, hb])]
        exact .cons (Or.inl hunit) .nil
    · next hk =>
      cases h
      refine ⟨fun name => ?_, [], by simp [WalkState.enter], by simp [hasUnit, hl, hk]⟩
      rw [known_append, ← hw name]
      exact mem_openNamespace

end Meet

/-- **What the places of a tree add**, one after the other. -/
theorem foldlM_meet_eq_ok {lines : LineIndex} {before ps : List Place} {w w' : WalkState}
    (hw : Remembers before w) (h : ps.foldlM (meet lines) w = .ok w') :
    ∃ us, w'.units.reverse = w.units.reverse ++ us ∧
      List.Forall₂ (Describes lines) (ofUnits before ps) us := by
  induction ps generalizing before w with
  | nil =>
    cases h
    exact ⟨[], by simp, .nil⟩
  | cons p ps ih =>
    rw [List.foldlM_cons] at h
    obtain ⟨w₁, hp, hps⟩ := bind_eq_ok h
    obtain ⟨hw₁, us, hus, hdescribed⟩ := meet_eq_ok hw hp
    obtain ⟨vs, hvs, hrest⟩ := ih hw₁ hps
    refine ⟨us ++ vs, ?_, List.rel_append hdescribed hrest⟩
    rw [hvs, hus, List.append_assoc]

end Place

/-- **The units of a tree**: one for each function definition with a body and for each lambda met
outside of them, in document order. -/
theorem collect_units {lines : LineIndex} {root : Node} {units : List StructuralUnit}
    (h : collect lines root = .ok units) :
    List.Forall₂ (Place.Describes lines) (Place.ofUnits [] (Place.root root).places) units := by
  rw [collect_eq] at h
  obtain ⟨w, hfold, hunits⟩ := bind_eq_ok h
  obtain ⟨us, hus, hdescribed⟩ := Place.foldlM_meet_eq_ok Place.remembers_nil hfold
  cases hunits
  rw [hus]
  exact hdescribed

/-- A definition of a function on some lines, with parameters and statements. -/
def definitionOnLines (name : String) (firstLine lastLine : Nat)
    (parameters statements : List Node) : Node where
  kind := .functionDefinition
  span := { startLine := firstLine, endLine := lastLine }
  role := none
  text := none
  children := [
    .bare .functionDeclarator (some .declarator) [
      .identifier .declarator name, .bare .parameterList (some .parameters) parameters],
    .bare .compound (some .body) statements]

/-- A method in a type in the namespace `a::b`; three functions with qualified names outside of it,
of which `a` and, within `a`, also `b` are namespaces and `T` is not; the function `*(k)(void)`; two
lambdas, one of them after the name that it initialises; and a declaration. -/
def nestedTree : Node :=
  .bare .translationUnit none [
    .bare .namespaceDefinition none [
      .identifier .name "a::b",
      .bare .typeSpecifier none [
        .identifier .name "T",
        definitionOnLines "f" 1 3 [.bare .parameter none [], .bare .parameter none []]
          [.bare .other none [], .bare .other none [.bare .lambda none []]]]],
    definitionOnLines "a::g" 4 4 [] [],
    definitionOnLines "T::g" 4 5 [] [],
    .bare .namespaceDefinition none [.identifier .name "a", definitionOnLines "b::g" 4 4 [] []],
    .bare .functionDefinition none [
      .bare .other (some .declarator) [
        .bare .functionDeclarator (some .declarator) [
          .bare .other (some .declarator) [{ Node.identifier .name "k" with role := none }],
          .bare .parameterList (some .parameters) [
            .bare .parameter none [
              { Node.bare .primitiveType (some .type) [] with text := some "void" }]]]],
      .bare .compound (some .body) []],
    .bare .other none [.identifier .declarator "h", .bare .lambda none [
      .bare .functionDeclarator (some .declarator) [
        .bare .parameterList (some .parameters) [.bare .parameter none []]]]],
    .bare .other none [.bare .lambda none [.bare .compound (some .body) [.bare .other none []]]],
    .bare .functionDefinition none [.identifier .declarator "f"]]

/-- Lines of which the second and the fifth hold no code. -/
def nestedLines : LineIndex := ⟨[true, false, true, true, false], []⟩

/-- The units of `nestedTree`. -/
def nestedUnits : List StructuralUnit := [
  { name := "a::b::T::f", kind := .method, parameterCount := 2,
    body := [.mk .sequential {} 0 0, .mk .sequential {} 0 0, .mk (.block []) {} 0 0],
    span := { startLine := 1, endLine := 3 }, enclosingType := some "T", lambdaCount := 1,
    realLines := 2 },
  { name := "a::g", kind := .function, parameterCount := 0, body := [],
    span := { startLine := 4, endLine := 4 }, enclosingType := none, lambdaCount := 0,
    realLines := 1 },
  { name := "T::g", kind := .method, parameterCount := 0, body := [],
    span := { startLine := 4, endLine := 5 }, enclosingType := some "T", lambdaCount := 0,
    realLines := 1 },
  { name := "a::b::g", kind := .function, parameterCount := 0, body := [],
    span := { startLine := 4, endLine := 4 }, enclosingType := none, lambdaCount := 0,
    realLines := 1 },
  { name := "k", kind := .function, parameterCount := 0, body := [], span := {},
    enclosingType := none, lambdaCount := 0, realLines := 0 },
  { name := "h", kind := .lambda, parameterCount := 1, body := [], span := {},
    enclosingType := none, lambdaCount := 0, realLines := 0 },
  { name := "<lambda>", kind := .lambda, parameterCount := 0, body := [.mk .sequential {} 0 0],
    span := {}, enclosingType := none, lambdaCount := 0, realLines := 0 }]

theorem collect_units_nested :
    collect nestedLines nestedTree = .ok nestedUnits ∧
      List.Forall₂ (Place.Describes nestedLines)
        (Place.ofUnits [] (Place.root nestedTree).places) nestedUnits := by
  have h : collect nestedLines nestedTree = .ok nestedUnits := by cbv
  exact ⟨h, collect_units h⟩

end CodeMetrics.StructuralUnit
