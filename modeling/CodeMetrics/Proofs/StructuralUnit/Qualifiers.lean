import CodeMetrics.Proofs.StructuralUnit.DeclaredNames

/-!
# Separators in template arguments

Only a separator outside brackets divides a name into a scope and what is declared there; one in
template arguments belongs to the argument (`StructuralUnit.Place.OuterType`). The walk over a tree
takes the last separator of all. So a function outside of types gets the type that its name says if
the last separator stands outside brackets, and a text that ends in the middle of a template
argument otherwise (`StructuralUnit.types_by_last_separator`).
-/

namespace CodeMetrics.StructuralUnit

open Cst Declarator

/-! ### Separators outside brackets -/

/-- The brackets open after one more character. One that closes nothing, as in the name of an
operator, is no bracket. -/
def afterBracket (depth : Nat) : Char → Nat
  | '<' => depth + 1
  | '>' => depth - 1
  | _ => depth

/-- **How many brackets are open** at the end of a text. -/
def openBrackets (text : String) : Nat := text.toList.foldl afterBracket 0

namespace Place

/-- **What stands before the last separator outside brackets** of a name. -/
structure IsOuterQualifier (name qualifier : String) : Prop where
  outside : openBrackets qualifier = 0
  eq : ∃ last, name = qualifier ++ "::" ++ last
  last : ∀ q l, name = q ++ "::" ++ l → openBrackets q = 0 → q.length ≤ qualifier.length

/-- **The type that the name of a function says**, outside of all types: what stands before the last
separator outside brackets, unless that, as written or within the scopes around it, is the name of a
namespace opened before. -/
inductive OuterType (before : List Place) (p : Place) (name : String) : Option String → Prop
  | qualifier {q : String} (hq : IsOuterQualifier name q) (hk : ¬Known before q)
      (hs : ¬Known before (p.qualify q)) : OuterType before p name (some q)
  | ofNamespace {q : String} (hq : IsOuterQualifier name q)
      (hk : Known before q ∨ Known before (p.qualify q)) : OuterType before p name none
  | unqualified (hq : ∀ q, ¬IsOuterQualifier name q) : OuterType before p name none

/-- Whether the last separator of a name, if there is one, stands outside brackets. -/
def EndsOutside (name : String) : Prop := ∀ q, IsQualifier name q → openBrackets q = 0

variable {before : List Place} {p : Place} {name q : String} {type : Option String}

/-- A name with a separator has a last one. -/
theorem exists_isQualifier {last : String} (h : name = q ++ "::" ++ last) :
    ∃ q, IsQualifier name q := by
  cases hq : Scope.qualifierOf? name with
  | some q => exact ⟨q, isQualifier_of_qualifierOf? hq⟩
  | none =>
    have hcut := Text.splitLast?_eq_none (by decide) (Option.map_eq_none_iff.1 hq) q.toList
      last.toList
    exact absurd (by simp [h, Scope.separator]) hcut

theorem IsQualifier.isOuterQualifier (h : IsQualifier name q) (hq : openBrackets q = 0) :
    IsOuterQualifier name q := by
  obtain ⟨last, hname, hlast⟩ := h
  exact ⟨hq, ⟨last, hname⟩, fun q l hql _ => hlast q l hql⟩

theorem IsQualifier.eq (h : IsQualifier name q) {q' : String} (h' : IsQualifier name q') :
    q = q' := by
  obtain ⟨last, hname, hlast⟩ := h
  obtain ⟨last', hname', hlast'⟩ := h'
  have hlength : q.length = q'.length := le_antisymm (hlast' q last hname) (hlast q' last' hname')
  have hlists : q.toList ++ ("::" ++ last).toList = q'.toList ++ ("::" ++ last').toList := by
    simpa [String.append_assoc] using congrArg String.toList (hname.symm.trans hname')
  exact String.toList_inj.1 (List.append_inj_left hlists (by simpa only [String.length_toList]))

/-- **If the last separator stands outside brackets**, a function belongs to the type that its name
says. -/
theorem BelongsTo.outerType (h : BelongsTo before p name type) (hp : p.innermostType? = none)
    (hname : EndsOutside name) : OuterType before p name type := by
  cases h with
  | around ht => simp [hp] at ht
  | qualifier _ hq hk hs => exact .qualifier (hq.isOuterQualifier (hname _ hq)) hk hs
  | ofNamespace _ hq hk => exact .ofNamespace (hq.isOuterQualifier (hname _ hq)) hk
  | unqualified _ hq =>
    refine .unqualified fun q' ⟨_, ⟨last, heq⟩, _⟩ => ?_
    obtain ⟨q, h⟩ := exists_isQualifier heq
    exact hq q h

/-- **If the last separator stands in brackets**, a function belongs to the text before it. -/
theorem BelongsTo.eq_some (h : BelongsTo before p name type) (hp : p.innermostType? = none)
    (hq : IsQualifier name q) (hk : ¬Known before q) (hs : ¬Known before (p.qualify q)) :
    type = some q := by
  cases h with
  | around ht => simp [hp] at ht
  | qualifier _ hq' _ _ => rw [hq.eq hq']
  | ofNamespace _ hq' hk' =>
    rw [← hq.eq hq'] at hk'
    exact absurd hk' (not_or.2 ⟨hk, hs⟩)
  | unqualified _ hnone => exact absurd hq (hnone q)

/-- A text with open brackets is not the type that a name says. -/
theorem not_outerType (hq : 0 < openBrackets q) : ¬OuterType before p name (some q) := by
  rintro ⟨⟨hout, _, _⟩, _, _⟩
  exact hq.ne' hout

/-! ### The types of functions -/

/-- **The type of a function outside of all types**, declared by a text. -/
structure TypedByText (before : List Place) (p : Place) (t : String) (u : StructuralUnit) :
    Prop where
  kind : u.kind = if u.enclosingType.isSome then .method else .function
  outside : EndsOutside (beforeParenthesis t) →
    OuterType before p (beforeParenthesis t) u.enclosingType
  inside : ∀ q, IsQualifier (beforeParenthesis t) q → 0 < openBrackets q → ¬Known before q →
    ¬Known before (p.qualify q) → u.enclosingType = some q ∧
      ¬OuterType before p (beforeParenthesis t) u.enclosingType

theorem IsFunction.typedByText {lines : LineIndex} {u : StructuralUnit}
    (h : p.IsFunction lines before u) (hp : p.innermostType? = none) :
    ∃ t, p.NamedBy t u ∧ TypedByText before p t u := by
  obtain ⟨t, ht⟩ := h.namedBy
  obtain ⟨s, -, hname, -, htype⟩ := h.signature
  have hs : s.name = beforeParenthesis t :=
    (qualify_eq_qualify_iff rfl).1 (hname.symm.trans ht.name)
  rw [hs] at htype
  refine ⟨t, ht, h.kind, htype.outerType hp, fun q hq hopen hk hscopes => ?_⟩
  have htype' := htype.eq_some hp hq hk hscopes
  exact ⟨htype', htype' ▸ not_outerType hopen⟩

theorem Describes.typedByText {lines : LineIndex} {q : List Place × Place} {u : StructuralUnit}
    (h : Describes lines q u) (hn : q.2.node.kind = .functionDefinition)
    (hp : q.2.innermostType? = none) : ∃ t, q.2.NamedBy t u ∧ TypedByText q.1 q.2 t u := by
  rcases h with h | h
  · exact h.typedByText hp
  · simp [h.node] at hn

end Place

/-- **The last separator of all decides.** A function definition with a body, outside of all types,
gets the type that its name says if the last separator of the name stands outside brackets. If that
stands in template arguments, the text before it is taken for a type, which no name says. -/
theorem types_by_last_separator {lines : LineIndex} {root : Node} {units : List StructuralUnit}
    (h : collect lines root = .ok units) :
    List.Forall₂ (fun q u => q.2.node.kind = .functionDefinition → q.2.innermostType? = none →
        ∃ t, q.2.NamedBy t u ∧ Place.TypedByText q.1 q.2 t u)
      (Place.ofUnits [] (Place.root root).places) units :=
  forall₂_ofUnits_of_collect (fun _ _ => Place.Describes.typedByText) h

theorem types_by_last_separator_template :
    collect ⟨[], []⟩ (definitions ["X<a::b>::f", "g<c>"]) = .ok
        [emptyUnit "X<a::b>::f" (some "X<a::b>"), emptyUnit "g<c>" none] ∧
      List.Forall₂ (fun q u => q.2.node.kind = .functionDefinition → q.2.innermostType? = none →
          ∃ t, q.2.NamedBy t u ∧ Place.TypedByText q.1 q.2 t u)
        (Place.ofUnits [] (Place.root (definitions ["X<a::b>::f", "g<c>"])).places)
        [emptyUnit "X<a::b>::f" (some "X<a::b>"), emptyUnit "g<c>" none] := by
  have h := collect_definitions ["X<a::b>::f", "g<c>"] ["X<a::b>::f", "g<c>"] (by decide)
  exact ⟨h, types_by_last_separator h⟩

/-- **A specialization of a function becomes a method**: no separator of `f<a::b>` stands outside
brackets, but the function is taken for one of the type `f<a`. -/
theorem specialization_is_method : ∃ u, collect ⟨[], []⟩ (definitions ["f<a::b>"]) = .ok [u] ∧
    u.kind = .method ∧ u.enclosingType = some "f<a" ∧ ∀ q, ¬Place.IsOuterQualifier "f<a::b>" q := by
  refine ⟨emptyUnit "f<a::b>" (some "f<a"), collect_definitions _ ["f<a::b>"] (by decide), rfl, rfl,
    ?_⟩
  -- the only beginning of the name that a separator follows has an open bracket
  have hbracket : ∀ cs ∈ "f<a::b>".toList.inits, cs ++ [':', ':'] ∈ "f<a::b>".toList.inits →
      cs.foldl afterBracket 0 ≠ 0 := by decide
  rintro q ⟨hout, ⟨last, heq⟩, -⟩
  have hlist : q.toList ++ [':', ':'] ++ last.toList = "f<a::b>".toList := by simp [heq]
  refine hbracket q.toList ((List.mem_inits _ _).2 ?_) ((List.mem_inits _ _).2 ?_) hout
  · exact ⟨[':', ':'] ++ last.toList, by rw [← hlist, List.append_assoc]⟩
  · exact ⟨last.toList, hlist⟩

end CodeMetrics.StructuralUnit
