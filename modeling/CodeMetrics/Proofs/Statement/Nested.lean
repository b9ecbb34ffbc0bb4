import CodeMetrics.Statement

/-!
# Statements within statements

A statement is a tree, through the statements nested in it. This file goes over such a tree without
telling the sorts of statements apart: what is nested in a statement is smaller
(`Statement.sizeOf_lt_of_mem_nested`), so that a property is proved of all statements once it is
proved of each from those nested in it (`Statement.nested_induction`), and `Statement.within` lists
a statement with all those in it.
-/

namespace CodeMetrics.Statement

theorem sizeOf_arm_lt {arms : List ConditionalArm} {a : ConditionalArm} {t : Statement}
    (ha : a ∈ arms) (ht : t ∈ a.body) : sizeOf t < sizeOf arms := by
  have harms := List.sizeOf_lt_of_mem ha
  have hbody := List.sizeOf_lt_of_mem ht
  cases a
  simp only [ConditionalArm.body, ConditionalArm.mk.sizeOf_spec] at harms hbody
  omega

/-- What is nested in a statement is smaller. -/
theorem sizeOf_lt_of_mem_nested {s t : Statement} (h : t ∈ s.nested) : sizeOf t < sizeOf s := by
  obtain ⟨kind, span, depth, conditionals⟩ := s
  rw [Statement.mk.sizeOf_spec]
  cases kind with
  | sequential => simp [nested, Statement.kind] at h
  | ifElse arms otherwise =>
    rcases List.mem_append.1 h with h | h
    · obtain ⟨a, ha, ht⟩ := List.mem_flatMap.1 h
      have := sizeOf_arm_lt ha ht
      rw [StatementKind.ifElse.sizeOf_spec]
      omega
    · cases otherwise with
      | none => cases h
      | some body =>
        have := List.sizeOf_lt_of_mem h
        simp only [StatementKind.ifElse.sizeOf_spec, Option.some.sizeOf_spec,
          Option.getD_some] at this ⊢
        omega
  | loop kind operators body =>
    have := List.sizeOf_lt_of_mem h
    simp only [nested, Statement.kind, StatementKind.loop.sizeOf_spec] at this ⊢
    omega
  | switch count default operators body =>
    have := List.sizeOf_lt_of_mem h
    simp only [nested, Statement.kind, StatementKind.switch.sizeOf_spec] at this ⊢
    omega
  | tryCatch count body handlers =>
    rw [StatementKind.tryCatch.sizeOf_spec]
    rcases List.mem_append.1 h with h | h
    · have := List.sizeOf_lt_of_mem h
      omega
    · obtain ⟨handler, hh, ht⟩ := List.mem_flatten.1 h
      have := List.sizeOf_lt_of_mem hh
      have := List.sizeOf_lt_of_mem ht
      omega
  | block body =>
    have := List.sizeOf_lt_of_mem h
    simp only [nested, Statement.kind, StatementKind.block.sizeOf_spec] at this ⊢
    omega

/-- **Induction over a statement and those nested in it.** -/
theorem nested_induction {P : Statement → Prop} (h : ∀ s, (∀ t ∈ s.nested, P t) → P s)
    (s : Statement) : P s :=
  h s fun t _ => nested_induction h t
termination_by sizeOf s
decreasing_by exact sizeOf_lt_of_mem_nested ‹_›

/-- **A statement with all statements in it**, in source order. -/
def within (s : Statement) : List Statement :=
  s :: s.nested.attach.flatMap fun t => t.1.within
termination_by sizeOf s
decreasing_by exact sizeOf_lt_of_mem_nested t.2

theorem within_eq (s : Statement) : s.within = s :: s.nested.flatMap within := by
  rw [within]
  simp

/-- The statements of a body, and all those in them. -/
def allWithin (body : List Statement) : List Statement := body.flatMap within

/-- The depth of what is nested in a statement at a depth: one more in a control construct, and the
same in a block. -/
def inside (s : Statement) (depth : Nat) : Nat := if s.isControl then depth + 1 else depth

end CodeMetrics.Statement
