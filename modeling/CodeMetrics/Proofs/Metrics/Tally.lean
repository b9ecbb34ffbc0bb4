import CodeMetrics.Metrics
import Mathlib.Algebra.BigOperators.Group.List.Basic
import Mathlib.Tactic.Abel

/-!
# Tallies add up

Tallies form a commutative monoid: counts add up, and of two nestings the greater one stays. With
it, the tally of statements is the sum of what each statement contributes, and it does not matter in
which order the statements are taken.
-/

namespace CodeMetrics.Tally

attribute [ext] Tally

instance : Zero Tally := ⟨{}⟩

instance : Add Tally := ⟨append⟩

@[simp] theorem append_eq_add (a b : Tally) : a.append b = a + b := rfl

section Fields

@[simp] theorem zero_decisions : (0 : Tally).decisions = 0 := rfl

@[simp] theorem zero_maxNesting : (0 : Tally).maxNesting = 0 := rfl

@[simp] theorem zero_statements : (0 : Tally).statements = 0 := rfl

@[simp] theorem zero_branches : (0 : Tally).branches = 0 := rfl

@[simp] theorem zero_loops : (0 : Tally).loops = 0 := rfl

variable (a b : Tally)

@[simp] theorem add_decisions : (a + b).decisions = a.decisions + b.decisions := rfl

@[simp] theorem add_maxNesting : (a + b).maxNesting = max a.maxNesting b.maxNesting := rfl

@[simp] theorem add_statements : (a + b).statements = a.statements + b.statements := rfl

@[simp] theorem add_branches : (a + b).branches = a.branches + b.branches := rfl

@[simp] theorem add_loops : (a + b).loops = a.loops + b.loops := rfl

end Fields

instance : AddCommMonoid Tally where
  add_assoc a b c := by ext <;> simp [Nat.add_assoc, Nat.max_assoc]
  zero_add a := by ext <;> simp
  add_zero a := by ext <;> simp
  add_comm a b := by ext <;> simp [Nat.add_comm, Nat.max_comm]
  nsmul := nsmulRec

/-! ### The fields of a sum -/

section Sums

variable (ts : List Tally)

theorem sum_decisions : ts.sum.decisions = (ts.map decisions).sum := by
  induction ts with
  | nil => rfl
  | cons t ts ih => simp [ih]

theorem sum_statements : ts.sum.statements = (ts.map statements).sum := by
  induction ts with
  | nil => rfl
  | cons t ts ih => simp [ih]

theorem sum_branches : ts.sum.branches = (ts.map branches).sum := by
  induction ts with
  | nil => rfl
  | cons t ts ih => simp [ih]

theorem sum_loops : ts.sum.loops = (ts.map loops).sum := by
  induction ts with
  | nil => rfl
  | cons t ts ih => simp [ih]

variable {ts}

theorem maxNesting_le_sum {t : Tally} (h : t ∈ ts) : t.maxNesting ≤ ts.sum.maxNesting := by
  induction ts with
  | nil => cases h
  | cons u us ih =>
    rw [List.sum_cons, add_maxNesting]
    rcases List.mem_cons.1 h with rfl | h
    · exact Nat.le_max_left _ _
    · exact (ih h).trans (Nat.le_max_right _ _)

theorem exists_maxNesting_eq_sum (h : ts.sum.maxNesting ≠ 0) :
    ∃ t ∈ ts, t.maxNesting = ts.sum.maxNesting := by
  induction ts with
  | nil => exact absurd rfl h
  | cons u us ih =>
    rw [List.sum_cons, add_maxNesting] at h ⊢
    rcases Nat.le_total u.maxNesting us.sum.maxNesting with hle | hle
    · rw [Nat.max_eq_right hle] at h ⊢
      obtain ⟨t, ht, heq⟩ := ih h
      exact ⟨t, List.mem_cons_of_mem u ht, heq⟩
    · exact ⟨u, List.mem_cons_self, (Nat.max_eq_left hle).symm⟩

end Sums

@[simp] theorem when_zero (condition : Bool) : when condition 0 = 0 := by
  cases condition <;> rfl

theorem when_add (condition : Bool) (m n : Nat) :
    when condition (m + n) = when condition m + when condition n := by
  cases condition <;> rfl

/-! ### The tally of statements as a sum -/

section Statements

variable (config : Config) (depth : Nat)

@[simp] theorem ofStatements_nil : ofStatements config depth [] = 0 := by
  rw [ofStatements]
  rfl

@[simp] theorem ofStatements_cons (s : Statement) (ss : List Statement) :
    ofStatements config depth (s :: ss) =
      ofStatement config depth s + ofStatements config depth ss := by
  rw [ofStatements]
  rfl

@[simp] theorem ofStatements_append (ss ts : List Statement) :
    ofStatements config depth (ss ++ ts) =
      ofStatements config depth ss + ofStatements config depth ts := by
  induction ss with
  | nil => simp
  | cons s ss ih => simp [ih, add_assoc]

theorem ofStatements_flatMap {α : Type} (f : α → List Statement) (as : List α) :
    ofStatements config depth (as.flatMap f) =
      (as.map fun a => ofStatements config depth (f a)).sum := by
  induction as with
  | nil => simp
  | cons a as ih => simp [ih]

theorem ofArms_eq_sum (arms : List ConditionalArm) :
    ofArms config depth arms = (arms.map fun a => ofStatements config depth a.body).sum := by
  induction arms with
  | nil => rw [ofArms]; rfl
  | cons a arms ih =>
    cases a
    rw [ofArms, ih]
    rfl

theorem ofOtherwise_eq_sum (otherwise : Option (List Statement)) :
    ofOtherwise config depth otherwise =
      (otherwise.toList.map (ofStatements config depth)).sum := by
  cases otherwise with
  | none => rw [ofOtherwise]; rfl
  | some body => rw [ofOtherwise]; simp

theorem ofHandlers_eq_sum (handlers : List (List Statement)) :
    ofHandlers config depth handlers = (handlers.map (ofStatements config depth)).sum := by
  induction handlers with
  | nil => rw [ofHandlers]; rfl
  | cons body rest ih =>
    rw [ofHandlers, ih]
    rfl

end Statements

end CodeMetrics.Tally
