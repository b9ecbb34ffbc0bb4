import CodeMetrics.Total
import Mathlib.Algebra.Order.BigOperators.Group.List
import Mathlib.Algebra.Order.Ring.Nat
import Mathlib.Data.List.Perm.Subperm

/-!
# Totals of numbers

Totals of natural numbers are sums, so they compare as sums do: member by member
(`total_le_total`), and along members that are left out (`total_le_of_subperm`).
-/

namespace CodeMetrics

variable {α : Type} {f g : α → Nat}

theorem total_eq_sum (as : List α) : total f as = (as.map f).sum := by
  induction as with
  | nil => rfl
  | cons a as ih => simp [ih]

theorem total_congr {as : List α} (h : ∀ a ∈ as, f a = g a) : total f as = total g as := by
  rw [total_eq_sum, total_eq_sum, List.map_congr_left h]

theorem total_le_total {as : List α} (h : ∀ a ∈ as, f a ≤ g a) : total f as ≤ total g as := by
  simpa only [total_eq_sum] using List.sum_le_sum h

theorem total_add (as : List α) : total (fun a => f a + g a) as = total f as + total g as := by
  simp only [total_eq_sum, List.sum_map_add]

theorem total_eq_countP {p : α → Bool} (h : ∀ a, f a = if p a then 1 else 0) (as : List α) :
    total f as = as.countP p := by
  induction as with
  | nil => rfl
  | cons a as ih => rw [total_cons, ih, h, List.countP_cons, Nat.add_comm]

theorem total_flatMap {β : Type} (h : β → List α) (bs : List β) :
    total f (bs.flatMap h) = total (fun b => total f (h b)) bs := by
  induction bs with
  | nil => rfl
  | cons b bs ih => simp [ih]

theorem total_le_of_subperm {as bs : List α} (h : as.Subperm bs) : total f as ≤ total f bs := by
  obtain ⟨cs, hperm, hsub⟩ := h
  rw [total_eq_sum, total_eq_sum, ← (hperm.map f).sum_eq]
  exact (hsub.map f).sum_le_sum fun _ _ => Nat.zero_le _

theorem total_filter_add (q : α → Bool) (as : List α) :
    total f (as.filter q) + total f (as.filter fun a => !q a) = total f as := by
  induction as with
  | nil => rfl
  | cons a as ih => by_cases h : q a <;> simp [h] <;> omega

end CodeMetrics
