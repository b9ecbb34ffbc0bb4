import CodeMetrics.Proofs.Statement.Exact
import CodeMetrics.Proofs.Statement.Height

/-!
# Building with a counter of open statements

`Build.level` limits nesting by the number of levels left, which is handed down. This file builds
bodies another way, with one `Builder` that all calls change: it holds the number of statements that
are *open*, which `Counting.nested` raises before what is inside a statement is built and lowers
again when that returns, also when it returns with an error. The builder outlives an error, so what
it holds then can be asked for.

The functions call each other back. They are written over what they call (`Counting.Calls`), and
`Counting.calls` ties the knot by unfolding the calls a number of times. More than `nestingLimit`
unfoldings are never used up, since every one of them opens a statement.

Three things are proved in one pass over all functions (`Counting.Follows`): a call from a builder
with some number of statements open

* gives what `Build.level` gives with the levels that are then left, or the same error;
* leaves as many statements open as it found, either way;
* gives statements that are no higher than the number of levels left.
-/

namespace CodeMetrics

open Cst Build

/-- What building keeps while it goes on: the lambdas merged so far, and the statements open. -/
structure Builder where
  lambdaCount : Nat := 0
  opened : Nat := 0

namespace Builder

/-- The builder with a statement more open. -/
def enter (b : Builder) : Builder := { b with opened := b.opened + 1 }

/-- The builder with a statement less open. -/
def leave (b : Builder) : Builder := { b with opened := b.opened - 1 }

end Builder

/-- Building with a builder that outlives errors. -/
abbrev Counting := EStateM NormalizationError Builder

namespace Counting

/-- Fails at a node. -/
def fail {α : Type} (n : Node) (fault : NormalizationFault) : Counting α := throw (errorAt n fault)

/-- The child in a role, which must be there. -/
def require (n : Node) (role : Role) (fault : NormalizationFault) : Counting Node :=
  match n.childWithRole? role with
  | some c => pure c
  | none => fail n fault

/-- Counts a lambda. -/
def count : Counting Unit := modify fun b => { b with lambdaCount := b.lambdaCount + 1 }

/-- **Builds one level deeper**, unless the limit is reached: one statement more is open meanwhile,
whatever comes of it. -/
def nested {α : Type} (n : Node) (m : Counting α) : Counting α := fun b =>
  if nestingLimit ≤ b.opened then .error (errorAt n .nestedTooDeep) b
  else
    match m b.enter with
    | .ok a b' => .ok a b'.leave
    | .error e b' => .error e b'.leave

/-! ### The functions, over what they call -/

/-- What the functions call that is nested: the building of a statement, and that of a group among
the items of a switch. -/
structure Calls where
  statement : Node → Nat → Counting (List Statement)
  switchGroup : Node → Nat → Counting (CaseLabels × List Statement)

section

variable (c : Calls)

/-- The statements of nodes one after the other. -/
def sequence (depth : Nat) : List Node → Counting (List Statement)
  | [] => pure []
  | n :: ns => do
    let first ← c.statement n depth
    let rest ← sequence depth ns
    return first ++ rest

/-- The statements of a body. -/
def body (n : Node) (depth : Nat) : Counting (List Statement) :=
  if n.kind = .compound then sequence c depth n.children else c.statement n depth

/-- The statements of the body of a lambda. -/
def lambdaBody (l : Node) (depth : Nat) : Counting (List Statement) :=
  match l.childWithRole? .body with
  | some b => body c b depth
  | none => pure []

/-- The blocks of lambdas, each counted. -/
def lambdaBlocks (depth : Nat) : List Node → Counting (List Statement)
  | [] => pure []
  | l :: ls => do
    count
    let statements ← lambdaBody c l depth
    let rest ← lambdaBlocks depth ls
    return block l depth statements :: rest

/-- The blocks of the lambdas in the expressions below a node. -/
def mergeLambdas (n : Node) (depth : Nat) : Counting (List Statement) :=
  lambdaBlocks c depth n.lambdasBelow

/-- The blocks of the lambdas in the condition of a node. -/
def conditionLambdas (n : Node) (depth : Nat) : Counting (List Statement) :=
  match n.childWithRole? .condition with
  | some e => mergeLambdas c e depth
  | none => pure []

/-- One arm of a ladder. -/
def buildArm (n : Node) (depth : Nat) : Counting Arm := do
  let lambdas ← conditionLambdas c n depth
  let consequence ← require n .consequence .missingConsequence
  let statements ← body c consequence (depth + 1)
  return {
    conditionals := ((n.childWithRole? .condition).map Node.countConditionals).getD 0
    lambdas
    arm := .mk (((n.childWithRole? .condition).map Node.countLogical).getD 0) statements }

/-- The arms of a ladder. -/
def buildArms (depth : Nat) : List Node → Counting (List Arm)
  | [] => pure []
  | n :: ns => do
    let first ← buildArm c n depth
    let rest ← buildArms depth ns
    return first :: rest

/-- The end of a ladder. -/
def buildEnd (depth : Nat) : LadderEnd → Counting (Option (List Statement))
  | .open => pure none
  | .otherwise n => do
    let statements ← body c n (depth + 1)
    return some statements
  | .empty clause => fail clause .elseWithoutStatement

/-- An `if` with the ladder that follows it. -/
def ifStatement (n : Node) (depth : Nat) : Counting (List Statement) := do
  let arms ← buildArms c depth (n :: (ladder n).1)
  let otherwise ← buildEnd c depth (ladder n).2
  return arms.flatMap Arm.lambdas ++
    [.mk (.ifElse (arms.map Arm.arm) otherwise) n.span depth (total Arm.conditionals arms)]

/-- The lambdas of the parts of a loop's header. -/
def headerLambdas (depth : Nat) : List Node → Counting (List Statement)
  | [] => pure []
  | h :: hs => do
    let first ← mergeLambdas c h depth
    let rest ← headerLambdas depth hs
    return first ++ rest

/-- A loop. -/
def loopStatement (n : Node) (depth : Nat) : Counting (List Statement) := do
  let bodyNode ← require n .body .missingLoopBody
  let headers := n.children.filter fun c => c.role != some .body
  let lambdas ← headerLambdas c depth headers
  let statements ← body c bodyNode (depth + 1)
  let logical := ((n.childWithRole? .condition).map Node.countLogical).getD 0
  return lambdas ++
    [.mk (.loop (loopKind n.kind) logical statements) n.span depth
      (total Node.countConditionals headers)]

/-- One item of a switch. -/
def buildItem (depth : Nat) (item : Node) : Counting (CaseLabels × List Statement) :=
  if item.kind = .case then do
    let statements ← sequence c depth (item.children.filter fun c => c.role != some .value)
    return (caseLabel item, statements)
  else if item.kind = .conditionalGroup then do
    let built ← c.switchGroup item depth
    return (built.1, [block item depth built.2])
  else do
    let statements ← c.statement item depth
    return ({}, statements)

/-- The items of a switch. -/
def switchItems (depth : Nat) : List Node → Counting (CaseLabels × List Statement)
  | [] => pure ({}, [])
  | item :: items => do
    let first ← buildItem c depth item
    let rest ← switchItems depth items
    return (first.1.append rest.1, first.2 ++ rest.2)

/-- A switch. -/
def switchStatement (n : Node) (depth : Nat) : Counting (List Statement) := do
  let bodyNode ← require n .body .missingSwitchBody
  let lambdas ← conditionLambdas c n depth
  let built ← switchItems c (depth + 1) bodyNode.children
  let logical := ((n.childWithRole? .condition).map Node.countLogical).getD 0
  return lambdas ++
    [.mk (.switch built.1.count built.1.hasDefault logical built.2) n.span depth
      (((n.childWithRole? .condition).map Node.countConditionals).getD 0)]

/-- The handlers of a try statement. -/
def buildHandlers (depth : Nat) : List Node → Counting (List (List Statement))
  | [] => pure []
  | clause :: clauses => do
    let handler ← require clause .body .missingCatchBody
    let first ← body c handler (depth + 1)
    let rest ← buildHandlers depth clauses
    return first :: rest

/-- A try statement. -/
def tryStatement (n : Node) (depth : Nat) : Counting (List Statement) := do
  let bodyNode ← require n .body .missingTryBody
  let statements ← body c bodyNode (depth + 1)
  let handlers ← buildHandlers c depth (n.childrenOfKind .catchClause)
  return [.mk (.tryCatch handlers.length statements handlers) n.span depth 0]

/-- The statements that a node in statement position becomes. -/
def mapStatement (n : Node) (depth : Nat) : Counting (List Statement) :=
  match n.kind with
  | .directive => pure []
  | .compound => do
    let statements ← sequence c depth n.children
    return [block n depth statements]
  | .conditionalGroup => do
    let statements ← sequence c depth (groupItems n)
    return [block n depth statements]
  | .labeled => sequence c depth (n.children.filter fun c => c.kind != .identifier)
  | .ifStatement => ifStatement c n depth
  | .forLoop | .rangeFor | .whileLoop | .doLoop => loopStatement c n depth
  | .switch => switchStatement c n depth
  | .tryStatement => tryStatement c n depth
  | .case | .catchClause | .elseClause => fail n .outsideConstruct
  | _ => do
    let lambdas ← mergeLambdas c n depth
    return .mk .sequential n.span depth n.countConditionals :: lambdas

end

/-- **The calls, unfolded a number of times.** -/
def calls : Nat → Calls
  | 0 =>
    { statement := fun n _ => fail n .nestedTooDeep
      switchGroup := fun n _ => fail n .nestedTooDeep }
  | j + 1 =>
    { statement := fun n depth => nested n (mapStatement (calls j) n depth)
      switchGroup := fun n depth => nested n (switchItems (calls j) depth (groupItems n)) }

/-! ### Following the levels -/

/-- **A run with a builder that follows a run without.** From a builder with a number of statements
open, both give the same, of which `P` holds, or both fail with the same error; and in either case
the same number is open afterwards. -/
def Follows {α : Type} (opened : Nat) (m : Counting α) (b : Build α) (P : α → Prop) : Prop :=
  ∀ l, (∃ a l', b.run l = .ok (a, l') ∧ m.run ⟨l, opened⟩ = .ok a ⟨l', opened⟩ ∧ P a) ∨
    ∃ e l', b.run l = .error e ∧ m.run ⟨l, opened⟩ = .error e ⟨l', opened⟩

namespace Follows

variable {α β : Type} {o : Nat} {P : α → Prop} {Q : β → Prop}

theorem pure {a : α} (h : P a) : Follows o (Pure.pure a) (Pure.pure a) P := by
  intro l
  exact Or.inl ⟨a, l, rfl, rfl, h⟩

theorem fail (n : Node) (fault : NormalizationFault) :
    Follows o (Counting.fail n fault) (Build.fail n fault) P := by
  intro l
  exact Or.inr ⟨errorAt n fault, l, rfl, rfl⟩

theorem bind {m : Counting α} {b : Build α} {f : α → Counting β} {g : α → Build β}
    (hm : Follows o m b P) (hf : ∀ a, P a → Follows o (f a) (g a) Q) :
    Follows o (m >>= f) (b >>= g) Q := by
  intro l
  rcases hm l with ⟨a, l', hb, hm, ha⟩ | ⟨e, l', hb, hm⟩
  · -- the second run starts from the builder that the first one leaves
    rcases hf a ha l' with ⟨c, l'', hg, hf, hc⟩ | ⟨e, l'', hg, hf⟩
    · left
      refine ⟨c, l'', ?_, ?_, hc⟩
      · rw [StateT.run_bind, hb]
        exact hg
      · rw [EStateM.run_bind, hm]
        exact hf
    · right
      refine ⟨e, l'', ?_, ?_⟩
      · rw [StateT.run_bind, hb]
        exact hg
      · rw [EStateM.run_bind, hm]
        exact hf
  · right
    refine ⟨e, l', ?_, ?_⟩
    · rw [StateT.run_bind, hb]
      rfl
    · rw [EStateM.run_bind, hm]

theorem map {m : Counting α} {b : Build α} {f : α → β} (hm : Follows o m b P)
    (hf : ∀ a, P a → Q (f a)) :
    Follows o (do let a ← m; return f a) (do let a ← b; return f a) Q :=
  hm.bind fun a ha => pure (hf a ha)

theorem mono {m : Counting α} {b : Build α} {R : α → Prop} (hm : Follows o m b P)
    (h : ∀ a, P a → R a) : Follows o m b R := by
  intro l
  rcases hm l with ⟨a, l', hb, hm, ha⟩ | herror
  · exact Or.inl ⟨a, l', hb, hm, h a ha⟩
  · exact Or.inr herror

theorem count : Follows o Counting.count (modify (· + 1)) fun _ => True := by
  intro l
  exact Or.inl ⟨(), l + 1, rfl, rfl, trivial⟩

theorem require (n : Node) (role : Role) (fault : NormalizationFault) :
    Follows o (Counting.require n role fault) (Build.require n role fault) fun _ => True := by
  unfold Counting.require Build.require
  cases n.childWithRole? role with
  | none => exact fail n fault
  | some c => exact pure trivial

/-- Below the limit, what follows with one statement more open follows. -/
theorem nested {m : Counting α} {b : Build α} (n : Node) (ho : o < nestingLimit)
    (hm : Follows (o + 1) m b P) : Follows o (Counting.nested n m) b P := by
  intro l
  have hrun : (Counting.nested n m).run ⟨l, o⟩ =
      match m.run ⟨l, o + 1⟩ with
      | .ok a b' => .ok a b'.leave
      | .error e b' => .error e b'.leave := if_neg (by simpa using ho)
  rcases hm l with ⟨a, l', hb, hm, ha⟩ | ⟨e, l', hb, hm⟩
  · exact Or.inl ⟨a, l', hb, by rw [hrun, hm]; rfl, ha⟩
  · exact Or.inr ⟨e, l', hb, by rw [hrun, hm]; rfl⟩

/-- At the limit, nothing is built. -/
theorem nested_of_limit (m : Counting α) (n : Node) (ho : nestingLimit ≤ o) :
    Follows o (Counting.nested n m) (Build.fail n .nestedTooDeep) P := by
  intro l
  exact Or.inr ⟨errorAt n .nestedTooDeep, l, rfl, if_pos ho⟩

end Follows

open Statement

/-- What a number of unfoldings call follows what a level builds, and is as high as the number of
levels left at most. -/
structure Calls.Follow (c : Calls) (inner : Level) (opened levels : Nat) : Prop where
  statement (n : Node) (d : Nat) :
    Follows opened (c.statement n d) (inner.statement n d) fun ss => heightAll ss ≤ levels
  switchGroup (n : Node) (d : Nat) :
    Follows opened (c.switchGroup n d) (inner.switchGroup n d) fun r => heightAll r.2 < levels

theorem height_block (n : Node) (d : Nat) (ss : List Statement) :
    (block n d ss).height = heightAll ss + 1 := height_eq _

/-! ### One pass over all functions

Every function follows its counterpart if what it calls does. A body is as high as what is called; a
statement, and a block that stands for a lambda beside it, is one higher. -/

section

variable {c : Calls} {inner : Level} {o k : Nat} (h : c.Follow inner o k)

include h

theorem follows_sequence (d : Nat) (ns : List Node) :
    Follows o (sequence c d ns) (Build.sequence inner d ns) fun ss => heightAll ss ≤ k := by
  induction ns with
  | nil => exact .pure (Nat.zero_le k)
  | cons n ns ih =>
    refine (h.statement n d).bind fun first hfirst => ih.map fun rest hrest => ?_
    rw [heightAll_append]
    exact Nat.max_le.2 ⟨hfirst, hrest⟩

theorem follows_body (n : Node) (d : Nat) :
    Follows o (body c n d) (Build.body inner n d) fun ss => heightAll ss ≤ k := by
  unfold body Build.body
  split
  · exact follows_sequence h d n.children
  · exact h.statement n d

theorem follows_lambdaBody (l : Node) (d : Nat) :
    Follows o (lambdaBody c l d) (match l.childWithRole? .body with
      | some b => Build.body inner b d
      | none => pure []) fun ss => heightAll ss ≤ k := by
  unfold lambdaBody
  cases l.childWithRole? .body with
  | none => exact .pure (Nat.zero_le k)
  | some b => exact follows_body h b d

theorem follows_lambdaBlocks (d : Nat) (ls : List Node) :
    Follows o (lambdaBlocks c d ls) (Build.lambdaBlocks inner d ls)
      fun ss => heightAll ss ≤ k + 1 := by
  induction ls with
  | nil => exact .pure (Nat.zero_le _)
  | cons l ls ih =>
    have hbody := follows_lambdaBody h l d
    rw [lambdaBlocks, Build.lambdaBlocks]
    refine Follows.count.bind fun _ _ => ?_
    have hrest : ∀ ss rest, heightAll ss ≤ k → heightAll rest ≤ k + 1 →
        heightAll (block l d ss :: rest) ≤ k + 1 := by
      intro ss rest hss hrest
      rw [heightAll_cons, height_block]
      omega
    cases hb : l.childWithRole? .body <;> rw [hb] at hbody <;>
      exact hbody.bind fun ss hss => ih.map fun rest => hrest ss rest hss

theorem follows_mergeLambdas (n : Node) (d : Nat) :
    Follows o (mergeLambdas c n d) (Build.mergeLambdas inner n d)
      fun ss => heightAll ss ≤ k + 1 :=
  follows_lambdaBlocks h d n.lambdasBelow

/-- The lambdas of a condition, before what is built after them. -/
theorem follows_conditionLambdas_bind {β : Type} {Q : β → Prop} (n : Node) (d : Nat)
    {f : List Statement → Counting β} {g : List Statement → Build β}
    (hf : ∀ ss, heightAll ss ≤ k + 1 → Follows o (f ss) (g ss) Q) :
    Follows o (conditionLambdas c n d >>= f) (match n.childWithRole? .condition with
      | some e => Build.mergeLambdas inner e d >>= g
      | none => pure [] >>= g) Q := by
  unfold conditionLambdas
  cases n.childWithRole? .condition with
  | none =>
    have hnil : Follows o (pure []) (pure []) fun ss : List Statement => heightAll ss ≤ k + 1 :=
      .pure (Nat.zero_le _)
    exact hnil.bind hf
  | some e => exact (follows_mergeLambdas h e d).bind hf

theorem follows_buildArm (n : Node) (d : Nat) :
    Follows o (buildArm c n d) (Build.buildArm inner n d)
      fun a => heightAll a.lambdas ≤ k + 1 ∧ heightAll a.arm.body ≤ k := by
  refine follows_conditionLambdas_bind h n d fun ls hls => ?_
  refine (Follows.require n .consequence .missingConsequence).bind fun b _ => ?_
  exact (follows_body h b (d + 1)).map fun ss hss => ⟨hls, hss⟩

theorem follows_buildArms (d : Nat) (ns : List Node) :
    Follows o (buildArms c d ns) (Build.buildArms inner d ns)
      fun arms => ∀ a ∈ arms, heightAll a.lambdas ≤ k + 1 ∧ heightAll a.arm.body ≤ k := by
  induction ns with
  | nil => exact .pure (by simp)
  | cons n ns ih =>
    refine (follows_buildArm h n d).bind fun first hfirst => ih.map fun rest hrest => ?_
    exact List.forall_mem_cons.2 ⟨hfirst, hrest⟩

theorem follows_buildEnd (d : Nat) (e : LadderEnd) :
    Follows o (buildEnd c d e) (Build.buildEnd inner d e) fun r => heightAll (r.getD []) ≤ k := by
  cases e with
  | «open» => exact .pure (Nat.zero_le k)
  | otherwise n =>
    rw [Build.buildEnd, map_eq_pure_bind]
    exact (follows_body h n (d + 1)).map fun ss hss => hss
  | empty clause => exact .fail clause .elseWithoutStatement

theorem follows_ifStatement (n : Node) (d : Nat) :
    Follows o (ifStatement c n d) (Build.ifStatement inner n d)
      fun ss => heightAll ss ≤ k + 1 := by
  refine (follows_buildArms h d _).bind fun arms harms => ?_
  refine (follows_buildEnd h d _).map fun last hlast => ?_
  have hlambdas : heightAll (arms.flatMap Arm.lambdas) ≤ k + 1 :=
    heightAll_flatMap_le fun a ha => (harms a ha).1
  have hbodies : heightAll ((arms.map Arm.arm).flatMap ConditionalArm.body) ≤ k := by
    rw [List.flatMap_map]
    exact heightAll_flatMap_le fun a ha => (harms a ha).2
  rw [heightAll_append]
  refine Nat.max_le.2 ⟨hlambdas, heightAll_singleton_le ?_⟩
  rw [Statement.nested, Statement.kind]
  exact (heightAll_append _ _).trans_le (Nat.max_le.2 ⟨hbodies, hlast⟩)

theorem follows_headerLambdas (d : Nat) (hs : List Node) :
    Follows o (headerLambdas c d hs) (Build.headerLambdas inner d hs)
      fun ss => heightAll ss ≤ k + 1 := by
  induction hs with
  | nil => exact .pure (Nat.zero_le _)
  | cons n hs ih =>
    refine (follows_mergeLambdas h n d).bind fun first hfirst => ih.map fun rest hrest => ?_
    rw [heightAll_append]
    exact Nat.max_le.2 ⟨hfirst, hrest⟩

theorem follows_loopStatement (n : Node) (d : Nat) :
    Follows o (loopStatement c n d) (Build.loopStatement inner n d)
      fun ss => heightAll ss ≤ k + 1 := by
  refine (Follows.require n .body .missingLoopBody).bind fun b _ => ?_
  refine (follows_headerLambdas h d _).bind fun ls hls => ?_
  refine (follows_body h b (d + 1)).map fun ss hss => ?_
  rw [heightAll_append]
  exact Nat.max_le.2 ⟨hls, heightAll_singleton_le hss⟩

theorem follows_buildItem (d : Nat) (item : Node) :
    Follows o (buildItem c d item) (Build.buildItem inner d item)
      fun r => heightAll r.2 ≤ k := by
  unfold buildItem Build.buildItem
  split
  · exact (follows_sequence h d _).map fun ss hss => hss
  · split
    · refine (h.switchGroup item d).map fun r hr => ?_
      rw [heightAll_cons, height_block]
      exact Nat.max_le.2 ⟨hr, Nat.zero_le k⟩
    · exact (h.statement item d).map fun ss hss => hss

theorem follows_switchItems (d : Nat) (items : List Node) :
    Follows o (switchItems c d items) (Build.switchItems inner d items)
      fun r => heightAll r.2 ≤ k := by
  induction items with
  | nil => exact .pure (Nat.zero_le k)
  | cons item items ih =>
    rw [switchItems, switchItems_cons]
    refine (follows_buildItem h d item).bind fun first hfirst => ih.map fun rest hrest => ?_
    exact (heightAll_append _ _).trans_le (Nat.max_le.2 ⟨hfirst, hrest⟩)

theorem follows_switchStatement (n : Node) (d : Nat) :
    Follows o (switchStatement c n d) (Build.switchStatement inner n d)
      fun ss => heightAll ss ≤ k + 1 := by
  refine (Follows.require n .body .missingSwitchBody).bind fun b _ => ?_
  refine follows_conditionLambdas_bind h n d fun ls hls => ?_
  refine (follows_switchItems h (d + 1) b.children).map fun r hr => ?_
  rw [heightAll_append]
  exact Nat.max_le.2 ⟨hls, heightAll_singleton_le hr⟩

theorem follows_buildHandlers (d : Nat) (clauses : List Node) :
    Follows o (buildHandlers c d clauses) (Build.buildHandlers inner d clauses)
      fun handlers => heightAll handlers.flatten ≤ k := by
  induction clauses with
  | nil => exact .pure (Nat.zero_le k)
  | cons clause clauses ih =>
    refine (Follows.require clause .body .missingCatchBody).bind fun b _ => ?_
    refine (follows_body h b (d + 1)).bind fun first hfirst => ih.map fun rest hrest => ?_
    rw [List.flatten_cons, heightAll_append]
    exact Nat.max_le.2 ⟨hfirst, hrest⟩

theorem follows_tryStatement (n : Node) (d : Nat) :
    Follows o (tryStatement c n d) (Build.tryStatement inner n d)
      fun ss => heightAll ss ≤ k + 1 := by
  refine (Follows.require n .body .missingTryBody).bind fun b _ => ?_
  refine (follows_body h b (d + 1)).bind fun ss hss => ?_
  refine (follows_buildHandlers h d _).map fun handlers hhandlers => heightAll_singleton_le ?_
  exact (heightAll_append _ _).trans_le (Nat.max_le.2 ⟨hss, hhandlers⟩)

theorem follows_mapStatement (n : Node) (d : Nat) :
    Follows o (mapStatement c n d) (Build.mapStatement inner n d)
      fun ss => heightAll ss ≤ k + 1 := by
  have hblock : ∀ ns, Follows o
      (do let ss ← sequence c d ns; return [block n d ss])
      (do let ss ← Build.sequence inner d ns; return [block n d ss])
      fun ss => heightAll ss ≤ k + 1 := fun ns =>
    (follows_sequence h d ns).map fun ss hss => heightAll_singleton_le hss
  unfold mapStatement Build.mapStatement
  cases n.kind
  case directive => exact .pure (Nat.zero_le _)
  case compound => exact hblock n.children
  case conditionalGroup => exact hblock (groupItems n)
  case labeled => exact (follows_sequence h d _).mono fun ss hss => Nat.le_succ_of_le hss
  case ifStatement => exact follows_ifStatement h n d
  case forLoop | rangeFor | whileLoop | doLoop => exact follows_loopStatement h n d
  case switch => exact follows_switchStatement h n d
  case tryStatement => exact follows_tryStatement h n d
  case case | catchClause | elseClause => exact .fail n .outsideConstruct
  all_goals
    refine (follows_mergeLambdas h n d).map fun ls hls => ?_
    rw [heightAll_cons, height_eq]
    exact Nat.max_le.2 ⟨by simp [Statement.nested, Statement.kind], hls⟩

end

/-- **The calls follow the levels**, as long as there are more unfoldings than levels left. -/
theorem follow_calls {o k j : Nat} (ho : o + k = nestingLimit) (hj : k < j) :
    (calls j).Follow (level k) o k := by
  induction k generalizing o j with
  | zero =>
    obtain ⟨i, rfl⟩ : ∃ i, j = i + 1 := ⟨j - 1, by omega⟩
    -- no level is left, and the limit is reached
    exact ⟨fun n d => .nested_of_limit _ n (by omega), fun n d => .nested_of_limit _ n (by omega)⟩
  | succ k ih =>
    obtain ⟨i, rfl⟩ : ∃ i, j = i + 1 := ⟨j - 1, by omega⟩
    have hinner : (calls i).Follow (level k) (o + 1) k := ih (by omega) (by omega)
    constructor
    · intro n d
      exact (follows_mapStatement hinner n d).nested n (by omega)
    · intro n d
      refine ((follows_switchItems hinner d (groupItems n)).nested n (by omega)).mono ?_
      exact fun r hr => Nat.lt_succ_of_le hr

/-! ### What is left open -/

/-- Whether a run leaves as many statements open as it finds, whether it fails or not. -/
def Balanced {α : Type} (m : Counting α) (b : Builder) : Prop :=
  match m.run b with
  | .ok _ b' | .error _ b' => b'.opened = b.opened

/-- What comes of a run, without the statements open. -/
def toExcept {α : Type} :
    EStateM.Result NormalizationError Builder α → Except NormalizationError (α × Nat)
  | .ok a b => .ok (a, b.lambdaCount)
  | .error e _ => .error e

/-- Whether a run gives a result. -/
def Succeeds {α : Type} (m : Counting α) (b : Builder) : Prop := ∃ a b', m.run b = .ok a b'

namespace Follows

variable {α : Type} {b : Builder} {m : Counting α} {model : Build α} {P : α → Prop}

theorem balanced (h : Follows b.opened m model P) : Balanced m b := by
  unfold Balanced
  rcases h b.lambdaCount with ⟨a, l, -, hm, -⟩ | ⟨e, l, -, hm⟩ <;> rw [hm]

theorem toExcept_run (h : Follows b.opened m model P) :
    toExcept (m.run b) = model.run b.lambdaCount := by
  rcases h b.lambdaCount with ⟨a, l, hb, hm, -⟩ | ⟨e, l, hb, hm⟩ <;> rw [hm, hb] <;> rfl

theorem of_run {o l l' : Nat} {a : α} (h : Follows o m model P) (ha : model.run l = .ok (a, l')) :
    P a := by
  rcases h l with ⟨a', _, hb, -, hP⟩ | ⟨e, _, hb, -⟩ <;> rw [hb] at ha <;> cases ha
  exact hP

theorem succeeds_iff (h : Follows b.opened m model P) :
    Succeeds m b ↔ ∃ r, model.run b.lambdaCount = .ok r := by
  rcases h b.lambdaCount with ⟨a, l, hb, hm, -⟩ | ⟨e, l, hb, hm⟩
  · exact ⟨fun _ => ⟨_, hb⟩, fun _ => ⟨_, _, hm⟩⟩
  · constructor
    · rintro ⟨a, b', ha⟩
      rw [hm] at ha
      cases ha
    · rintro ⟨r, hr⟩
      rw [hb] at hr
      cases hr

end Follows

/-! ### Ladders

All members of a ladder are built on one level. So the limit on nesting has no say in how long a
ladder is: it is built exactly if each of its arms is, built alone from the same builder. -/

end Counting

namespace Build

variable {α β : Type}

/-- Whether a computation succeeds does not depend on the lambdas counted before. -/
theorem Outcome.ok_iff {m : Build α} {F : NormalizationError → Prop} {a : α} {i : Nat}
    (h : Outcome m F a i) (s : Nat) : (∃ r, m.run s = .ok r) ↔ ∀ e, ¬F e := by
  rcases h s with ⟨hm, hF⟩ | ⟨e, he, hm⟩
  · exact ⟨fun _ => hF, fun _ => ⟨_, hm⟩⟩
  · constructor
    · rintro ⟨r, hr⟩
      rw [hm] at hr
      cases hr
    · intro hF
      exact absurd he (hF e)

/-- The arms of a ladder are built if each of them is. -/
theorem exists_outcome_buildArms {inner : Level} {o : Nat} (h : inner.Exact o) (d : Nat)
    (ns : List Node) (s : Nat) :
    ∃ (F : NormalizationError → Prop) (arms : List Arm) (i : Nat),
      Outcome (buildArms inner d ns) F arms i ∧
        ((∀ e, ¬F e) ↔ ∀ n ∈ ns, ∃ r, (buildArm inner n d).run s = .ok r) := by
  induction ns with
  | nil => exact ⟨_, _, _, Outcome.pure [], by simp⟩
  | cons n ns ih =>
    obtain ⟨G, arms, j, hrest, hG⟩ := ih
    have harm := outcome_buildArm (v := ⟨.rung, n, d, o⟩) h
    refine ⟨_, _, _, harm.bind (hrest.map fun rest => _ :: rest), ?_⟩
    rw [List.forall_mem_cons, ← hG, harm.ok_iff s, ← forall_and]
    exact forall_congr' fun e => not_or

/-- A ladder is built if each of its arms is, and its end. -/
theorem ok_ifStatement_iff {inner : Level} {o : Nat} (h : inner.Exact o) (n : Node) (d s : Nat) :
    (∃ r, (ifStatement inner n d).run s = .ok r) ↔
      (∀ m ∈ n :: (ladder n).1, ∃ r, (buildArm inner m d).run s = .ok r) ∧
        ∃ r, (buildEnd inner d (ladder n).2).run s = .ok r := by
  obtain ⟨F, arms, i, harms, hF⟩ := exists_outcome_buildArms h d (n :: (ladder n).1) s
  have hend := outcome_buildEnd (v := ⟨.rung, n, d, o⟩) h (ladder n).2
  have hladder : Outcome (ifStatement inner n d) _ _ _ := harms.bind (hend.map fun last =>
    arms.flatMap Arm.lambdas ++
      [.mk (.ifElse (arms.map Arm.arm) last) n.span d (total Arm.conditionals arms)])
  rw [hladder.ok_iff s, ← hF, hend.ok_iff s, ← forall_and]
  exact forall_congr' fun e => not_or

end Build

namespace Counting

/-- **A ladder of any length takes up one level**: it is built exactly if each of its arms and its
end are, built alone from the builder with the one statement open. -/
theorem succeeds_statement_ladder {j : Nat} {b : Builder} {n : Node} (d : Nat)
    (hj : nestingLimit < j) (hk : n.kind = .ifStatement) (ho : b.opened < nestingLimit) :
    Succeeds ((calls (j + 1)).statement n d) b ↔
      (∀ m ∈ n :: (ladder n).1, Succeeds (buildArm (calls j) m d) b.enter) ∧
        Succeeds (buildEnd (calls j) d (ladder n).2) b.enter := by
  obtain ⟨k, hlevels⟩ : ∃ k, b.opened + (k + 1) = nestingLimit :=
    ⟨nestingLimit - b.opened - 1, by omega⟩
  have hinner : (calls j).Follow (level k) b.enter.opened k :=
    follow_calls (by simp only [Builder.enter]; omega) (by omega)
  have hstatement := (follow_calls (j := j + 1) hlevels (by omega)).statement n d
  have hmap : (level (k + 1)).statement n d = Build.ifStatement (level k) n d := by
    change Build.mapStatement (level k) n d = _
    rw [Build.mapStatement, hk]
  have hexact : (level k).Exact (b.opened + 1) := exact_level (by omega)
  rw [hstatement.succeeds_iff, hmap, ok_ifStatement_iff hexact]
  refine and_congr (forall₂_congr fun m _ => ?_) ?_
  · exact (follows_buildArm hinner m d).succeeds_iff.symm
  · exact (follows_buildEnd hinner d _).succeeds_iff.symm

end Counting

end CodeMetrics
