import CodeMetrics.Proofs.StructuralUnit.Bodies

/-!
# The names that functions are declared by

A function definition is named by the text of one identifier, at which the way through its
declarators ends (`Declarator.heart?`). The name of a conversion operator comes with its parameter
list, and what stands before the first parenthesis is kept. The same is done to every other text
(`Declarator.nameOfText?_eq`), so a name is kept whole exactly if it holds no parenthesis
(`Declarator.beforeParenthesis_eq_trimmed_iff`), and two definitions in the same scopes get the same
name exactly if their texts agree before the first one (`StructuralUnit.names_before_parenthesis`).
-/

namespace CodeMetrics

open Cst

namespace Text

/-! ### Trimming -/

theorem mem_dropWhile_isBlank {c : Char} {cs : List Char} (hc : isBlank c = false) :
    c ∈ cs.dropWhile isBlank ↔ c ∈ cs := by
  refine ⟨(List.dropWhile_suffix _).mem, fun h => ?_⟩
  rw [← List.takeWhile_append_dropWhile (p := isBlank) (l := cs)] at h
  rcases List.mem_append.1 h with h | h
  · exact absurd (List.mem_takeWhile_imp h) (by simp [hc])
  · exact h

/-- Trimming drops nothing but blanks. -/
theorem mem_trim {c : Char} {cs : List Char} (hc : isBlank c = false) : c ∈ trim cs ↔ c ∈ cs := by
  rw [trim, trimEnd, List.mem_reverse, mem_dropWhile_isBlank hc, List.mem_reverse, trimStart,
    mem_dropWhile_isBlank hc]

end Text

namespace Declarator

/-! ### The name in a text -/

/-- A text without the blanks around it. -/
def trimmed (text : String) : String := String.ofList (Text.trim text.toList)

/-- What stands before the first parenthesis of a text, without the blanks around it. -/
def beforeParenthesis (text : String) : String :=
  trimmed (String.ofList (text.toList.takeWhile (· ≠ '(')))

section

variable {text : String}

theorem takeWhile_of_not_mem {cs : List Char} (h : '(' ∉ cs) :
    cs.takeWhile (· ≠ '(') = cs := by
  rw [List.takeWhile_eq_self_iff]
  intro c hc
  exact decide_eq_true fun he => h (he ▸ hc)

theorem takeWhile_append_parenthesis {before : List Char} (h : '(' ∉ before) (after : List Char) :
    (before ++ '(' :: after).takeWhile (· ≠ '(') = before := by
  rw [List.takeWhile_append, takeWhile_of_not_mem h]
  simp

/-- **Every text is cut at its first parenthesis**, and gives a name unless nothing is left. -/
theorem nameOfText?_eq (text : String) :
    nameOfText? text =
      if beforeParenthesis text = "" then none else some (beforeParenthesis text) := by
  by_cases h : '(' ∈ text.toList
  · obtain ⟨before, after, heq, hbefore⟩ := List.eq_append_cons_of_mem h
    simp only [nameOfText?, beforeParenthesis, trimmed, heq, Text.splitFirst?_append hbefore,
      takeWhile_append_parenthesis hbefore, String.toList_ofList, String.ofList_eq_empty_iff]
    cases Text.trim before <;> simp
  · simp only [nameOfText?, beforeParenthesis, trimmed, Text.splitFirst?_of_not_mem h,
      takeWhile_of_not_mem h, String.toList_ofList, String.ofList_eq_empty_iff]
    cases Text.trim text.toList <;> simp

/-- **A name is kept whole exactly if it holds no parenthesis.** -/
theorem beforeParenthesis_eq_trimmed_iff :
    beforeParenthesis text = trimmed text ↔ '(' ∉ text.toList := by
  refine ⟨fun h hmem => ?_, fun h => ?_⟩
  · -- the parenthesis is no blank, so it stands in the trimmed text, but not in what is kept
    have hblank : Text.isBlank '(' = false := by decide
    have hkept : '(' ∈ Text.trim (text.toList.takeWhile (· ≠ '(')) := by
      have := congrArg String.toList h
      simp only [beforeParenthesis, trimmed, String.toList_ofList] at this
      rwa [this, Text.mem_trim hblank]
    have := List.mem_takeWhile_imp ((Text.mem_trim hblank).1 hkept)
    simp at this
  · rw [beforeParenthesis, takeWhile_of_not_mem h, String.ofList_toList]

/-- A text without parentheses that a list in parentheses follows is kept. -/
theorem beforeParenthesis_append {declared : String} (h : '(' ∉ declared.toList)
    (parameters : String) :
    beforeParenthesis (declared ++ "(" ++ parameters) = trimmed declared := by
  have hlist : (declared ++ "(" ++ parameters).toList =
      declared.toList ++ '(' :: parameters.toList := by simp
  rw [beforeParenthesis, hlist, takeWhile_append_parenthesis h, String.ofList_toList]

end

/-! ### The identifier that names a function -/

/-- **The heart of a declarator**: the identifier at which the way through its parts ends. -/
def heart? (n : Node) : Option Node :=
  if n.kind = .identifier then some n
  else
    match _h : nameHolder? n with
    | some d => heart? d
    | none => none
termination_by sizeOf n
decreasing_by exact Node.sizeOf_lt_of_mem_children (mem_of_nameHolder? _h)

theorem name?_eq (n : Node) : name? n = ((heart? n).bind Node.text).bind nameOfText? := by
  fun_induction name? n with
  | case1 n hn => simp [heart?, hn]
  | case2 n hn d hd ih =>
    rw [ih, heart?.eq_def n, if_neg hn]
    split
    · next d' hd' => rw [Option.some.inj (hd.symm.trans hd')]
    · next hd' => rw [hd] at hd'; cases hd'
  | case3 n hn hd =>
    rw [heart?, if_neg hn]
    split
    · next d' hd' => rw [hd] at hd'; cases hd'
    · rfl

end Declarator

namespace StructuralUnit

open Declarator

/-- **The text that a function definition is declared by**: that of the identifier at the heart of
its declarator. -/
def declaredText? (n : Node) : Option String := do
  let declarator ← n.childWithRole? .declarator
  let holder ← (functionDeclarator? declarator).bind (·.childWithRole? .declarator) <|>
    if declarator.kind = .identifier then some declarator else none
  let identifier ← heart? holder
  identifier.text

theorem map_name_signature? (n : Node) :
    (signature? n).map Signature.name = (declaredText? n).bind nameOfText? := by
  simp only [signature?, declaredText?, name?_eq, Option.bind_eq_bind, Option.pure_def,
    Option.map_bind, Option.bind_assoc, Function.comp_def, Option.map_some, Option.bind_fun_some]

theorem exists_declaredText_of_signature? {n : Node} {s : Signature} (h : signature? n = some s) :
    ∃ t, declaredText? n = some t ∧ s.name = beforeParenthesis t := by
  have hname : (declaredText? n).bind nameOfText? = some s.name := by
    rw [← map_name_signature?, h, Option.map_some]
  obtain ⟨t, ht, hs⟩ := Option.bind_eq_some_iff.1 hname
  rw [nameOfText?_eq] at hs
  split at hs
  · cases hs
  · exact ⟨t, ht, (Option.some.inj hs).symm⟩

/-- **A function definition says no name** exactly if no text declares it, or one that holds nothing
before its first parenthesis. -/
theorem signature?_eq_none_iff {n : Node} :
    signature? n = none ↔ ∀ t, declaredText? n = some t → beforeParenthesis t = "" := by
  rw [← Option.map_eq_none_iff (f := Signature.name), map_name_signature?, Option.bind_eq_none_iff]
  simp [nameOfText?_eq]

/-! ### The names of units -/

namespace Place

/-- The names of the scopes around a place, outermost first. -/
def scopeNames (p : Place) : List String :=
  p.ancestors.filterMap (nameAs? [.namespaceDefinition, .typeSpecifier])

/-- Two names within the same scopes are the same exactly if their last parts are. -/
theorem qualify_eq_qualify_iff {p q : Place} (h : p.scopeNames = q.scopeNames) {a b : String} :
    p.qualify a = q.qualify b ↔ a = b := by
  have hp : p.qualify a = "::".intercalate (p.scopeNames ++ [a]) := rfl
  have hq : q.qualify b = "::".intercalate (p.scopeNames ++ [b]) := by rw [h]; rfl
  rw [hp, hq]
  by_cases hnil : p.scopeNames = []
  · simp [hnil]
  · rw [String.intercalate_append_of_ne_nil hnil (List.cons_ne_nil _ _),
      String.intercalate_append_of_ne_nil hnil (List.cons_ne_nil _ _), String.append_right_inj,
      String.intercalate_singleton, String.intercalate_singleton]

/-- **A unit is named by what stands before the first parenthesis** of the text that its function is
declared by: the whole text if it holds none, and what a parameter list follows otherwise. -/
structure NamedBy (p : Place) (t : String) (u : StructuralUnit) : Prop where
  text : declaredText? p.node = some t
  name : u.name = p.qualify (beforeParenthesis t)
  whole : u.name = p.qualify (trimmed t) ↔ '(' ∉ t.toList
  cut : ∀ declared parameters, t = declared ++ "(" ++ parameters → '(' ∉ declared.toList →
    u.name = p.qualify (trimmed declared)

theorem IsFunction.namedBy {lines : LineIndex} {before : List Place} {p : Place}
    {u : StructuralUnit} (h : p.IsFunction lines before u) : ∃ t, p.NamedBy t u := by
  obtain ⟨s, hs, hname, -⟩ := h.signature
  obtain ⟨t, ht, hst⟩ := exists_declaredText_of_signature? hs
  rw [hst] at hname
  refine ⟨t, ht, hname, ?_, fun declared parameters heq hdeclared => ?_⟩
  · rw [hname, qualify_eq_qualify_iff rfl, beforeParenthesis_eq_trimmed_iff]
  · rw [hname, heq, beforeParenthesis_append hdeclared]

theorem Describes.namedBy {lines : LineIndex} {q : List Place × Place} {u : StructuralUnit}
    (h : Describes lines q u) (hn : q.2.node.kind = .functionDefinition) :
    ∃ t, q.2.NamedBy t u := by
  rcases h with h | h
  · exact h.namedBy
  · simp [h.node] at hn

/-- Two units in the same scopes have the same name exactly if their texts agree before the first
parenthesis. -/
theorem NamedBy.name_eq_name_iff {p q : Place} {t t' : String} {u v : StructuralUnit}
    (hu : p.NamedBy t u) (hv : q.NamedBy t' v) (hscopes : p.scopeNames = q.scopeNames) :
    u.name = v.name ↔ beforeParenthesis t = beforeParenthesis t' := by
  rw [hu.name, hv.name, qualify_eq_qualify_iff hscopes]

end Place

/-! ### Files of definitions -/

/-- A definition of a function without parameters, in braces that hold nothing. -/
def emptyDefinition (text : String) : Node :=
  .bare .functionDefinition none [.identifier .declarator text, .bare .compound (some .body) []]

/-- Such definitions, one after the other. -/
def definitions (texts : List String) : Node :=
  .bare .translationUnit none (texts.map emptyDefinition)

/-- The unit of such a definition. -/
def emptyUnit (name : String) (enclosingType : Option String) : StructuralUnit where
  name
  kind := if enclosingType.isSome then .method else .function
  parameterCount := 0
  body := []
  span := {}
  enclosingType
  lambdaCount := 0
  realLines := 0

theorem signature?_emptyDefinition {text name : String} (h : nameOfText? text = some name) :
    signature? (emptyDefinition text) = some ⟨name, 0⟩ := by
  have hd : (emptyDefinition text).childWithRole? .declarator =
      some (.identifier .declarator text) := rfl
  have hf : functionDeclarator? (.identifier .declarator text) = none := by
    rw [functionDeclarator?, if_pos (by rfl)]
  have hn : name? (.identifier .declarator text) = some name := by
    rw [name?, if_pos (by rfl)]
    exact h
  have hh : (none <|> if (Node.identifier .declarator text).kind = .identifier then
      some (Node.identifier .declarator text) else none) = some (.identifier .declarator text) :=
    rfl
  simp only [signature?, hd, hf, hh, hn, Option.bind_eq_bind, Option.bind_some, Option.bind_none]
  rfl

theorem run_emptyDefinition {text name : String} (h : nameOfText? text = some name)
    (us : List StructuralUnit) :
    (Step.visit (emptyDefinition text)).run ⟨[], []⟩ { units := us } =
      .ok { units := emptyUnit name (enclosingTypeOf [] [] name) :: us } := by
  have hc : (emptyDefinition text).childWithRole? .body =
      some (.bare .compound (some .body) []) := rfl
  have hb : Build.ofBody (.bare .compound (some .body) []) = .ok ([], 0) := by cbv
  have hq : Scope.qualify [] name = name := by simp [Scope.qualify]
  have hf : ofFunction? ⟨[], []⟩ [] [] (emptyDefinition text) =
      .ok (some (emptyUnit name (enclosingTypeOf [] [] name))) := by
    rw [ofFunction?, hc, signature?_emptyDefinition h]
    dsimp only
    rw [hb, hq]
    rfl
  rw [Step.run, if_pos (by rfl), hf]
  rfl

theorem walk_definitions (texts names : List String) (h : texts.map nameOfText? = names.map some)
    (us : List StructuralUnit) :
    walk ⟨[], []⟩ (texts.map fun text => .visit (emptyDefinition text)) { units := us } =
      .ok (us.reverse ++ names.map fun name => emptyUnit name (enclosingTypeOf [] [] name)) := by
  induction texts generalizing names us with
  | nil =>
    obtain rfl : names = [] := List.map_eq_nil_iff.1 h.symm
    simp [walk]
  | cons text texts ih =>
    cases names with
    | nil => cases h
    | cons name names =>
      obtain ⟨hname, hnames⟩ := List.cons.inj h
      have hp : (Step.visit (emptyDefinition text)).pushed = [] := rfl
      rw [List.map_cons, walk_cons, run_emptyDefinition hname, hp, List.nil_append]
      exact (ih names hnames _).trans (by simp)

/-- **The units of a file of definitions**: one for each, with the name in its text. -/
theorem collect_definitions (texts names : List String)
    (h : texts.map nameOfText? = names.map some) :
    collect ⟨[], []⟩ (definitions texts) =
      .ok (names.map fun name => emptyUnit name (enclosingTypeOf [] [] name)) := by
  have hp : (Step.visit (definitions texts)).pushed =
      texts.map fun text => .visit (emptyDefinition text) := by
    have hchildren : walkedChildren (definitions texts) = texts.map emptyDefinition := rfl
    have hnone : openedScope? (definitions texts) = none := rfl
    rw [Step.pushed, if_neg (by simp [definitions, Node.bare]), hchildren, hnone, List.map_map]
    exact List.append_nil _
  rw [collect, walk_cons, hp, List.append_nil]
  exact walk_definitions texts names h []

/-! ### The names of a tree -/

/-- The places of a tree that have units, with their units. -/
def unitPlaces (root : Node) (units : List StructuralUnit) : List (Place × StructuralUnit) :=
  ((Place.root root).places.filter Place.hasUnit).zip units

/-- **The functions of a tree are named by what stands before the first parenthesis.** Every place
that should have a unit has one, and among the definitions in the same scopes those have equal names
whose texts agree before their first parentheses. -/
structure NamedByTexts (root : Node) (units : List StructuralUnit) : Prop where
  length_eq : ((Place.root root).places.filter Place.hasUnit).length = units.length
  named : ∀ pu ∈ unitPlaces root units, pu.1.node.kind = .functionDefinition →
    ∃ t, pu.1.NamedBy t pu.2
  name_eq_iff : ∀ pu ∈ unitPlaces root units, ∀ qv ∈ unitPlaces root units,
    pu.1.node.kind = .functionDefinition → qv.1.node.kind = .functionDefinition →
    pu.1.scopeNames = qv.1.scopeNames → ∀ t t', declaredText? pu.1.node = some t →
    declaredText? qv.1.node = some t' →
    (pu.2.name = qv.2.name ↔ beforeParenthesis t = beforeParenthesis t') ∧
      ('(' ∉ t.toList → '(' ∉ t'.toList → (pu.2.name = qv.2.name ↔ trimmed t = trimmed t'))

/-- **Every name is cut at its first parenthesis.** A text is kept whole exactly if it holds none,
and loses a parameter list at its end if it holds no other parentheses, as for a conversion
operator. -/
theorem names_before_parenthesis {lines : LineIndex} {root : Node} {units : List StructuralUnit}
    (h : collect lines root = .ok units) : NamedByTexts root units := by
  have hnamed : List.Forall₂
      (fun p u => p.node.kind = .functionDefinition → ∃ t, Place.NamedBy p t u)
      ((Place.root root).places.filter Place.hasUnit) units :=
    forall₂_of_collect (fun _ _ => Place.Describes.namedBy) h
  obtain ⟨hlength, hzip⟩ := List.forall₂_iff_zip.1 hnamed
  refine ⟨hlength, fun pu hpu => hzip hpu, ?_⟩
  intro pu hpu qv hqv hp hq hscopes t t' htext htext'
  obtain ⟨s, hs⟩ := hzip hpu hp
  obtain ⟨s', hs'⟩ := hzip hqv hq
  obtain rfl : s = t := Option.some.inj (hs.text.symm.trans htext)
  obtain rfl : s' = t' := Option.some.inj (hs'.text.symm.trans htext')
  have hnames := hs.name_eq_name_iff hs' hscopes
  refine ⟨hnames, fun hwhole hwhole' => ?_⟩
  rw [hnames, beforeParenthesis_eq_trimmed_iff.2 hwhole, beforeParenthesis_eq_trimmed_iff.2 hwhole']

theorem names_before_parenthesis_conversion :
    collect ⟨[], []⟩ (definitions ["S::operator int()", "S::f"]) = .ok
        [emptyUnit "S::operator int" (some "S"), emptyUnit "S::f" (some "S")] ∧
      NamedByTexts (definitions ["S::operator int()", "S::f"])
        [emptyUnit "S::operator int" (some "S"), emptyUnit "S::f" (some "S")] := by
  have h := collect_definitions ["S::operator int()", "S::f"] ["S::operator int", "S::f"]
    (by decide)
  exact ⟨h, names_before_parenthesis h⟩

/-- **Other names lose their rest**: two specializations become one name, the name of a method loses
the method, and a call operator loses its parentheses. -/
theorem names_lose_their_rest :
    collect ⟨[], []⟩ (definitions
        ["f<int(int)>", "f<int(char)>", "Foo<int(int)>::bar", "S::operator()"]) = .ok
      [emptyUnit "f<int" none, emptyUnit "f<int" none, emptyUnit "Foo<int" none,
        emptyUnit "S::operator" (some "S")] :=
  collect_definitions _ ["f<int", "f<int", "Foo<int", "S::operator"] (by decide)

end StructuralUnit

end CodeMetrics
