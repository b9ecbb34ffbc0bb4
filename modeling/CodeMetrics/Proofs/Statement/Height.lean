import CodeMetrics.Proofs.Metrics.Statements

/-!
# The height of statements

The height of a statement is the number of statements nested in each other in it, whatever their
sort. The nesting that the metrics count leaves out all but control constructs, so it is at most the
height (`Statement.maxNesting_ofStatements_le`).
-/

namespace CodeMetrics.Statement

open Tally

/-- **The height of a statement**: the greatest number of statements nested in each other in it, the
statement itself included. -/
def height (s : Statement) : Nat :=
  (s.nested.attach.map fun t => t.1.height).foldr max 0 + 1
termination_by sizeOf s
decreasing_by exact sizeOf_lt_of_mem_nested t.2

/-- **The height of statements** one after the other. -/
def heightAll (ss : List Statement) : Nat := (ss.map height).foldr max 0

theorem height_eq (s : Statement) : s.height = heightAll s.nested + 1 := by
  rw [height, heightAll, List.attach_map_val]

@[simp] theorem heightAll_nil : heightAll [] = 0 := rfl

@[simp] theorem heightAll_cons (s : Statement) (ss : List Statement) :
    heightAll (s :: ss) = max s.height (heightAll ss) := rfl

@[simp] theorem heightAll_append (ss ts : List Statement) :
    heightAll (ss ++ ts) = max (heightAll ss) (heightAll ts) := by
  induction ss with
  | nil => simp
  | cons s ss ih => simp [ih, Nat.max_assoc]

theorem heightAll_flatMap_le {α : Type} {f : α → List Statement} {as : List α} {k : Nat}
    (h : ∀ a ∈ as, heightAll (f a) ≤ k) : heightAll (as.flatMap f) ≤ k := by
  induction as with
  | nil => exact Nat.zero_le k
  | cons a as ih =>
    rw [List.flatMap_cons, heightAll_append]
    exact Nat.max_le.2 ⟨h a List.mem_cons_self, ih fun c hc => h c (List.mem_cons_of_mem a hc)⟩

/-- One statement is one higher than what it holds. -/
theorem heightAll_singleton_le {s : Statement} {k : Nat} (h : heightAll s.nested ≤ k) :
    heightAll [s] ≤ k + 1 := by
  rw [heightAll_cons, heightAll_nil, height_eq]
  omega

theorem maxNesting_ofStatements_le_of {config : Config} {d : Nat} {ss : List Statement}
    (h : ∀ s ∈ ss, (ofStatement config d s).maxNesting ≤ d + s.height) :
    (ofStatements config d ss).maxNesting ≤ d + heightAll ss := by
  induction ss with
  | nil => simp
  | cons s ss ih =>
    have hs := h s List.mem_cons_self
    have hss := ih fun t ht => h t (List.mem_cons_of_mem s ht)
    rw [ofStatements_cons, add_maxNesting, heightAll_cons]
    omega

theorem maxNesting_ofStatement_le (config : Config) (d : Nat) (s : Statement) :
    (ofStatement config d s).maxNesting ≤ d + s.height := by
  induction s using nested_induction generalizing d with
  | h s ih =>
    have hnested := maxNesting_ofStatements_le_of fun t ht => ih t ht (s.inside d)
    have hown : (s.own config d).maxNesting ≤ d + 1 := by
      rw [own]
      dsimp only
      split <;> omega
    have hinside : s.inside d ≤ d + 1 := by
      rw [inside]
      split <;> omega
    rw [ofStatement_eq, add_maxNesting, height_eq]
    omega

/-- **The nesting of statements is at most their height.** -/
theorem maxNesting_ofStatements_le (config : Config) (d : Nat) (ss : List Statement) :
    (ofStatements config d ss).maxNesting ≤ d + heightAll ss :=
  maxNesting_ofStatements_le_of fun s _ => maxNesting_ofStatement_le config d s

end CodeMetrics.Statement
