import CodeMetrics.Proofs.Statement.Nested

/-!
# Places in a statement tree

A statement holds lists of statements: the bodies of its arms, its last alternative, its body or its
handlers. This file gives names to the places where such lists stand. A `Statement.Frame` is what a
statement is with one of its lists left out, a `Statement.Layer` the statement around the gap with
its siblings, and a `Statement.Context` a body with a gap at any place, as the layers from the
outermost to the innermost. `Statement.Context.plug` puts a list of statements into the gap, so that
two bodies that differ in one place are one context with two lists in it.

No place is left out: each list that stands somewhere in a body is the list in the gap of a context
(`Statement.Holds.exists_context`), and the control constructs around it are those of the context.

A statement may also be moved to another depth, which `Statement.redepth` records in it.
-/

namespace CodeMetrics.Statement

/-! ### The lists of a statement -/

/-- **The lists of statements that a statement holds directly.** -/
def lists (s : Statement) : List (List Statement) :=
  match s.kind with
  | .sequential => []
  | .ifElse arms otherwise => arms.map ConditionalArm.body ++ otherwise.toList
  | .loop _ _ body | .switch _ _ _ body | .block body => [body]
  | .tryCatch _ body handlers => body :: handlers

theorem flatten_lists (s : Statement) : s.lists.flatten = s.nested := by
  obtain ⟨kind, span, depth, conditionals⟩ := s
  cases kind with
  | ifElse arms otherwise => cases otherwise <;> simp [lists, nested, kind, List.flatMap]
  | _ => simp [lists, nested, kind]

/-- **Where a list of statements stands** in a body: in which statements, innermost first. -/
inductive Holds (body : List Statement) : List Statement → List Statement → Prop
  | top : Holds body [] body
  | nested {around ss xs : List Statement} {t : Statement} (h : Holds body around ss) (ht : t ∈ ss)
      (hxs : xs ∈ t.lists) : Holds body (t :: around) xs

/-! ### Frames -/

/-- **What a statement is, with one of its lists left out.** -/
inductive Frame where
  | block
  | arm (before : List ConditionalArm) (logicalOperators : Nat) (after : List ConditionalArm)
      (otherwise : Option (List Statement))
  | otherwise (arms : List ConditionalArm)
  | loop (kind : LoopKind) (logicalOperators : Nat)
  | switch (caseCount : Nat) (hasDefault : Bool) (logicalOperators : Nat)
  | tryBody (catchCount : Nat) (handlers : List (List Statement))
  | handler (catchCount : Nat) (body : List Statement) (before after : List (List Statement))

namespace Frame

/-- What the statement is, with a list in the gap. -/
def fill (xs : List Statement) : Frame → StatementKind
  | block => .block xs
  | arm before operators after last => .ifElse (before ++ .mk operators xs :: after) last
  | otherwise arms => .ifElse arms (some xs)
  | loop kind operators => .loop kind operators xs
  | switch caseCount hasDefault operators => .switch caseCount hasDefault operators xs
  | tryBody catchCount handlers => .tryCatch catchCount xs handlers
  | handler catchCount body before after => .tryCatch catchCount body (before ++ xs :: after)

/-- Whether the statement is a control construct: all are but blocks. -/
def isControl : Frame → Bool
  | block => false
  | _ => true

end Frame

/-- **A statement with a gap, and its siblings.** -/
structure Layer where
  before : List Statement
  frame : Frame
  span : Span
  depth : Nat
  conditionalExpressions : Nat
  after : List Statement

namespace Layer

/-- The statement with a list in the gap. -/
def statement (l : Layer) (xs : List Statement) : Statement :=
  .mk (l.frame.fill xs) l.span l.depth l.conditionalExpressions

/-- The statement with a list in the gap, and its siblings. -/
def fill (l : Layer) (xs : List Statement) : List Statement :=
  l.before ++ l.statement xs :: l.after

theorem isControl_statement (l : Layer) (xs : List Statement) :
    (l.statement xs).isControl = l.frame.isControl := by
  rcases l with ⟨_, _ | _ | _ | _ | _ | _ | _, _, _, _, _⟩ <;> rfl

end Layer

/-- Each list of a statement is the list in a gap of it. -/
theorem exists_fill_of_mem_lists {s : Statement} {xs : List Statement} (h : xs ∈ s.lists) :
    ∃ f : Frame, f.fill xs = s.kind := by
  obtain ⟨kind, span, depth, conditionals⟩ := s
  cases kind with
  | sequential => cases h
  | ifElse arms otherwise =>
    rcases List.mem_append.1 h with h | h
    · obtain ⟨⟨operators, body⟩, ha, rfl⟩ := List.mem_map.1 h
      obtain ⟨before, after, rfl⟩ := List.append_of_mem ha
      exact ⟨.arm before operators after otherwise, rfl⟩
    · obtain rfl := Option.mem_toList.1 h
      exact ⟨.otherwise arms, rfl⟩
  | loop kind operators body =>
    obtain rfl := List.mem_singleton.1 h
    exact ⟨.loop kind operators, rfl⟩
  | switch count present operators body =>
    obtain rfl := List.mem_singleton.1 h
    exact ⟨.switch count present operators, rfl⟩
  | tryCatch count body handlers =>
    rcases List.mem_cons.1 h with rfl | h
    · exact ⟨.tryBody count handlers, rfl⟩
    · obtain ⟨before, after, rfl⟩ := List.append_of_mem h
      exact ⟨.handler count body before after, rfl⟩
  | block body =>
    obtain rfl := List.mem_singleton.1 h
    exact ⟨.block, rfl⟩

/-! ### Contexts -/

/-- **A body with a gap**: the layers around the gap, from the outermost to the innermost. -/
abbrev Context := List Layer

namespace Context

/-- The body with a list in the gap. -/
def plug (C : Context) (xs : List Statement) : List Statement := C.foldr Layer.fill xs

/-- The number of control constructs around the gap. -/
def controlDepth (C : Context) : Nat := C.countP fun l => l.frame.isControl

theorem plug_append_singleton (C : Context) (l : Layer) (xs : List Statement) :
    plug (C ++ [l]) xs = C.plug (l.fill xs) := by
  simp [plug]

theorem controlDepth_append_singleton (C : Context) (l : Layer) :
    controlDepth (C ++ [l]) = C.controlDepth + if l.frame.isControl then 1 else 0 := by
  simp [controlDepth, List.countP_cons]

end Context

/-- **Each list that stands in a body is in the gap of a context**, with the control constructs
around it those of the context. -/
theorem Holds.exists_context {body around xs : List Statement} (h : Holds body around xs) :
    ∃ C : Context, C.plug xs = body ∧ C.controlDepth = around.countP isControl := by
  induction h with
  | top => exact ⟨[], rfl, rfl⟩
  | @nested around ss xs t _ ht hxs ih =>
    obtain ⟨C, hplug, hdepth⟩ := ih
    obtain ⟨before, after, rfl⟩ := List.append_of_mem ht
    obtain ⟨f, hf⟩ := exists_fill_of_mem_lists hxs
    -- the statement around the list becomes one more layer, the innermost
    let l : Layer := ⟨before, f, t.span, t.depth, t.conditionalExpressions, after⟩
    have ht' : l.statement xs = t := by
      rw [Layer.statement, hf]
      cases t
      rfl
    refine ⟨C ++ [l], ?_, ?_⟩
    · rw [Context.plug_append_singleton, Layer.fill, ht']
      exact hplug
    · rw [Context.controlDepth_append_singleton, hdepth, List.countP_cons,
        ← Layer.isControl_statement l xs, ht']

/-! ### Other depths -/

mutual

/-- The statement with other depths recorded in it and in all statements in it. -/
def redepth (f : Nat → Nat) : Statement → Statement
  | .mk kind span depth conditionals => .mk (redepthKind f kind) span (f depth) conditionals

/-- What a statement is, with other depths recorded in all statements in it. -/
def redepthKind (f : Nat → Nat) : StatementKind → StatementKind
  | .sequential => .sequential
  | .ifElse arms otherwise => .ifElse (redepthArms f arms) (redepthOtherwise f otherwise)
  | .loop kind operators body => .loop kind operators (redepthAll f body)
  | .switch count present operators body => .switch count present operators (redepthAll f body)
  | .tryCatch count body handlers =>
    .tryCatch count (redepthAll f body) (redepthHandlers f handlers)
  | .block body => .block (redepthAll f body)

/-- Statements with other depths. -/
def redepthAll (f : Nat → Nat) : List Statement → List Statement
  | [] => []
  | s :: ss => s.redepth f :: redepthAll f ss

/-- Arms with other depths. -/
def redepthArms (f : Nat → Nat) : List ConditionalArm → List ConditionalArm
  | [] => []
  | .mk operators body :: arms => .mk operators (redepthAll f body) :: redepthArms f arms

/-- A last alternative with other depths. -/
def redepthOtherwise (f : Nat → Nat) : Option (List Statement) → Option (List Statement)
  | none => none
  | some body => some (redepthAll f body)

/-- Handlers with other depths. -/
def redepthHandlers (f : Nat → Nat) : List (List Statement) → List (List Statement)
  | [] => []
  | body :: handlers => redepthAll f body :: redepthHandlers f handlers

end

section

variable (f : Nat → Nat)

theorem redepthAll_eq_map (ss : List Statement) : redepthAll f ss = ss.map (redepth f) := by
  induction ss with
  | nil => rfl
  | cons s ss ih => rw [redepthAll, ih, List.map_cons]

theorem redepthHandlers_eq_map (handlers : List (List Statement)) :
    redepthHandlers f handlers = handlers.map fun body => body.map (redepth f) := by
  induction handlers with
  | nil => rfl
  | cons body handlers ih => rw [redepthHandlers, ih, redepthAll_eq_map, List.map_cons]

theorem redepthOtherwise_eq_map (otherwise : Option (List Statement)) :
    redepthOtherwise f otherwise = otherwise.map fun body => body.map (redepth f) := by
  cases otherwise with
  | none => rfl
  | some body => rw [redepthOtherwise, redepthAll_eq_map, Option.map_some]

theorem redepthArms_eq_map (arms : List ConditionalArm) :
    redepthArms f arms =
      arms.map fun a => .mk a.logicalOperators (a.body.map (redepth f)) := by
  induction arms with
  | nil => rfl
  | cons a arms ih =>
    cases a
    rw [redepthArms, ih, redepthAll_eq_map, List.map_cons]
    rfl

/-- What is nested in a statement gets other depths as the statement does. -/
theorem nested_redepth (s : Statement) : (s.redepth f).nested = s.nested.map (redepth f) := by
  obtain ⟨kind, span, depth, conditionals⟩ := s
  cases kind with
  | ifElse arms otherwise =>
    cases otherwise <;>
      simp [redepth, redepthKind, nested, kind, redepthArms_eq_map, redepthOtherwise_eq_map,
        List.flatMap_map, List.map_flatMap, ConditionalArm.body]
  | _ =>
    simp [redepth, redepthKind, nested, kind, redepthAll_eq_map, redepthHandlers_eq_map,
      List.map_flatten]

end

end CodeMetrics.Statement
