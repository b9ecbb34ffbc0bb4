import CodeMetrics.Proofs.StructuralUnit.Place

/-!
# The walk over pending steps is a traversal

`StructuralUnit.walk_eq` takes the pending steps out of the walk: what the steps of a tree do, the
places of the tree do one after the other, each in the scopes that its ancestors open
(`StructuralUnit.Place.meet`). In particular a scope that is opened is closed again at the right
moment, for after the last place of a tree the walk is back in the scopes it began with.

`StructuralUnit.Place.meet` is then inverted once for each sort of place, and
the units found by a traversal are read off (`StructuralUnit.foldlM_meet_eq_ok`).
-/

namespace CodeMetrics.StructuralUnit

open Cst

theorem bind_eq_ok {ε α β : Type} {m : Except ε α} {f : α → Except ε β} {b : β}
    (h : m >>= f = .ok b) : ∃ a, m = .ok a ∧ f a = .ok b := by
  cases m with
  | error e => cases h
  | ok a => exact ⟨a, rfl, h⟩

namespace Place

/-! ### Scopes from ancestors -/

/-- The scopes around a place. -/
def scopes (p : Place) : List Scope := p.ancestors.filterMap openedScope?

theorem map_name_openedScope? (n : Node) :
    (openedScope? n).map Scope.name = nameAs? [.namespaceDefinition, .typeSpecifier] n := by
  unfold openedScope? nameAs? nameText?
  generalize (n.childWithRole? .name).bind Node.text = text
  cases n.kind <;> cases text <;> rfl

theorem bind_typeName?_openedScope? (n : Node) :
    (openedScope? n).bind Scope.typeName? = nameAs? [.typeSpecifier] n := by
  unfold openedScope? nameAs? nameText?
  generalize (n.childWithRole? .name).bind Node.text = text
  cases n.kind <;> cases text <;> rfl

theorem qualify_scopes (p : Place) (name : String) :
    Scope.qualify p.scopes name = p.qualify name := by
  simp only [Scope.qualify, scopes, List.map_filterMap, map_name_openedScope?]
  rfl

theorem innermostType?_scopes (p : Place) : Scope.innermostType? p.scopes = p.innermostType? := by
  rw [Scope.innermostType?, ← List.head?_filterMap, List.filterMap_reverse, List.head?_reverse,
    scopes, List.filterMap_filterMap]
  simp only [bind_typeName?_openedScope?]
  rfl

theorem scopes_child (p : Place) (c : Node) :
    (p.child c).scopes = p.scopes ++ (openedScope? p.node).toList := by
  simp only [scopes, child, List.filterMap_append, List.filterMap_cons, List.filterMap_nil]
  cases openedScope? p.node <;> rfl

theorem walkedChildren_eq (n : Node) :
    walkedChildren n = n.children.filter fun c => !isScopeName n c := by
  unfold walkedChildren mayOpenScope isScopeName
  split
  · next h =>
    refine List.filter_congr fun c _ => ?_
    cases hk : n.kind <;> simp_all [bne]
  · next h =>
    refine (List.filter_eq_self.2 fun c _ => ?_).symm
    cases hk : n.kind <;> simp_all

/-! ### Meeting a place -/

/-- The step of a place. -/
def step (p : Place) : Step :=
  match p.ancestors.getLast? with
  | some parent => .ofChild parent p.node
  | none => .visit p.node

/-- **What is done at a place**, in the scopes that its ancestors open. -/
def meet (lines : LineIndex) (w : WalkState) (p : Place) : Except NormalizationError WalkState :=
  p.step.run lines { w with scopes := p.scopes }

theorem step_child (p : Place) (c : Node) : (p.child c).step = .ofChild p.node c := by
  simp [step, child]

theorem step_of_not_isLambda {p : Place} (h : p.isLambda = false) : p.step = .visit p.node := by
  unfold step
  split
  · next parent hp =>
    have hne : p.ancestors ≠ [] := fun he => by simp [he] at hp
    have hk : p.node.kind ≠ .lambda := by simp_all [isLambda]
    exact if_neg hk
  · rfl

theorem exists_parent_of_isLambda {p : Place} (h : p.isLambda) :
    p.node.kind = .lambda ∧
      ∃ parent, p.ancestors.getLast? = some parent ∧ p.step = .lambda p.node parent := by
  obtain ⟨hk, hne⟩ : p.node.kind = .lambda ∧ p.ancestors ≠ [] := by simpa [isLambda] using h
  refine ⟨hk, p.ancestors.getLast hne, List.getLast?_eq_some_getLast hne, ?_⟩
  rw [step, List.getLast?_eq_some_getLast hne]
  exact if_pos hk

/-- The steps that a place puts before all others are those of the places below it, and the end of
the scope that it opens. -/
theorem pushed_step {p : Place} (h : p.isCallable = false) :
    p.step.pushed = p.below.map step ++ (openedScope? p.node).toList.map fun _ => .leave := by
  obtain ⟨hk, hl⟩ : p.node.kind ≠ .functionDefinition ∧ p.isLambda = false := by
    simpa [isCallable] using h
  rw [step_of_not_isLambda hl, Step.pushed, if_neg hk, walkedChildren_eq, below, h,
    if_neg Bool.false_ne_true, List.map_map]
  congr 1
  exact List.map_congr_left fun c _ => (step_child p c).symm

theorem pushed_step_of_isCallable {p : Place} (h : p.isCallable) : p.step.pushed = [] := by
  cases hl : p.isLambda with
  | true =>
    obtain ⟨-, parent, -, hs⟩ := exists_parent_of_isLambda hl
    rw [hs, Step.pushed]
  | false =>
    have hk : p.node.kind = .functionDefinition := by simpa [isCallable, hl] using h
    rw [step_of_not_isLambda hl, Step.pushed, if_pos hk]

/-- After a callable nothing has been opened; after any other place, its scope. -/
theorem scopes_of_meet {lines : LineIndex} {w w' : WalkState} {p : Place}
    (h : p.meet lines w = .ok w') :
    w'.scopes = p.scopes ++ if p.isCallable then [] else (openedScope? p.node).toList := by
  cases hl : p.isLambda with
  | true =>
    obtain ⟨-, parent, -, hs⟩ := exists_parent_of_isLambda hl
    rw [meet, hs, Step.run] at h
    obtain ⟨u, -, hu⟩ := bind_eq_ok h
    cases hu
    simp [isCallable, hl, WalkState.add]
  | false =>
    rw [meet, step_of_not_isLambda hl, Step.run] at h
    split at h
    · next hk =>
      obtain ⟨u, -, hu⟩ := bind_eq_ok h
      cases hu
      simp [isCallable, hk, WalkState.add]
    · next hk =>
      cases h
      simp [isCallable, hl, hk, WalkState.enter]

end Place

/-! ### Without pending steps -/

section Walk

variable {lines : LineIndex}

theorem walk_cons (s : Step) (rest : List Step) (w : WalkState) :
    walk lines (s :: rest) w = s.run lines w >>= fun w' => walk lines (s.pushed ++ rest) w' := by
  rw [walk]
  cases s.run lines w <;> rfl

/-- The ends of the scopes of a place lead back to the scopes around it. -/
theorem walk_leave (p : Place) (rest : List Step) (w : WalkState) :
    walk lines (((openedScope? p.node).toList.map fun _ => .leave) ++ rest)
        { w with scopes := p.scopes ++ (openedScope? p.node).toList } =
      walk lines rest { w with scopes := p.scopes } := by
  cases openedScope? p.node with
  | none => simp
  | some scope =>
    rw [Option.toList_some, List.map_singleton, List.singleton_append, walk_cons]
    simp [Step.run, Step.pushed, WalkState.leave, bind, Except.bind]

/-- What is done at places does not depend on the scopes that were left before. -/
theorem foldlM_meet_scopes (ps : List Place) (w : WalkState) (scopes : List Scope)
    (f : WalkState → Except NormalizationError (List StructuralUnit)) :
    (ps.foldlM (Place.meet lines) { w with scopes } >>= fun w' => f { w' with scopes }) =
      ps.foldlM (Place.meet lines) w >>= fun w' => f { w' with scopes } := by
  cases ps <;> rfl

/-- What the steps of one tree do, those of several trees in the same scopes do. -/
theorem walk_steps {scopes : List Scope} {ps : List Place}
    (h : ∀ p ∈ ps, ∀ rest w, w.scopes = scopes → walk lines (p.step :: rest) w =
      p.places.foldlM (Place.meet lines) w >>= fun w' => walk lines rest { w' with scopes })
    (rest : List Step) (w : WalkState) (hw : w.scopes = scopes) :
    walk lines (ps.map Place.step ++ rest) w =
      (ps.flatMap Place.places).foldlM (Place.meet lines) w >>= fun w' =>
        walk lines rest { w' with scopes } := by
  induction ps generalizing w with
  | nil =>
    subst hw
    rfl
  | cons p ps ih =>
    have hps := ih fun q hq => h q (List.mem_cons_of_mem p hq)
    rw [List.map_cons, List.cons_append, h p List.mem_cons_self _ _ hw, List.flatMap_cons,
      List.foldlM_append, bind_assoc]
    refine congrArg _ (funext fun w' => ?_)
    rw [hps _ rfl, foldlM_meet_scopes]

/-- **The steps of a tree do what its places do**, one after the other, and lead back to the scopes
they began in. -/
theorem walk_step (p : Place) (rest : List Step) (w : WalkState) (hw : w.scopes = p.scopes) :
    walk lines (p.step :: rest) w =
      p.places.foldlM (Place.meet lines) w >>= fun w' =>
        walk lines rest { w' with scopes := p.scopes } := by
  induction p using Place.places.induct generalizing rest w with
  | case1 p ih =>
    -- both sides begin with the place itself, in the scopes around it
    have hmeet : p.step.run lines w = p.meet lines w := by rw [Place.meet, ← hw]
    rw [walk_cons, hmeet, Place.places_eq, List.foldlM_cons, bind_assoc]
    cases hm : p.meet lines w with
    | error e => rfl
    | ok w₁ =>
      have hs := Place.scopes_of_meet hm
      show walk lines (p.step.pushed ++ rest) w₁ = _
      cases hc : p.isCallable with
      | true =>
        rw [hc, if_pos rfl, List.append_nil] at hs
        rw [Place.pushed_step_of_isCallable hc, Place.below, if_pos hc, ← hs]
        rfl
      | false =>
        -- the places below stand in one more scope if the place opens one, which is left after them
        rw [hc, if_neg Bool.false_ne_true] at hs
        have hbelow : ∀ q ∈ p.below, q.scopes = p.scopes ++ (openedScope? p.node).toList := by
          intro q hq
          rw [Place.below, hc, if_neg Bool.false_ne_true] at hq
          obtain ⟨c, -, rfl⟩ := List.mem_map.1 hq
          exact Place.scopes_child p c
        rw [Place.pushed_step hc, List.append_assoc, walk_steps _ _ w₁ hs]
        · refine congrArg _ (funext fun w' => ?_)
          rw [walk_leave]
        · intro q hq rest w hw
          rw [ih ⟨q, hq⟩ rest w (hw.trans (hbelow q hq).symm), hbelow q hq]

/-- **The walk without pending steps.** -/
theorem collect_eq (root : Node) :
    collect lines root = (Place.root root).places.foldlM (Place.meet lines) {} >>= fun w =>
      .ok w.units.reverse := by
  rw [collect, show Step.visit root = (Place.root root).step from rfl, walk_step _ _ _ rfl]
  refine congrArg _ (funext fun w => ?_)
  rw [walk]

end Walk

end CodeMetrics.StructuralUnit
