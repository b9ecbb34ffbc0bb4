/-!
# Totals

The total of a quantity over the members of a list. Numbers of a fixed width wrap around.
-/

namespace CodeMetrics

/-- The total of a quantity over the members of a list. -/
def total {α β : Type} [Add β] [OfNat β 0] (f : α → β) (as : List α) : β :=
  as.foldr (fun a rest => f a + rest) 0

section

variable {α β : Type}

@[simp]
theorem total_nil [Add β] [OfNat β 0] (f : α → β) : total f [] = 0 := rfl

@[simp]
theorem total_cons [Add β] [OfNat β 0] (f : α → β) (a : α) (as : List α) :
    total f (a :: as) = f a + total f as := rfl

@[simp]
theorem total_append (f : α → Nat) (as bs : List α) :
    total f (as ++ bs) = total f as + total f bs := by
  induction as with
  | nil => simp
  | cons a as ih => simp [ih, Nat.add_assoc]

theorem total_map {γ : Type} (f : β → Nat) (g : γ → β) (cs : List γ) :
    total f (cs.map g) = total (fun c => f (g c)) cs := by
  induction cs with
  | nil => rfl
  | cons c cs ih => simp [ih]

end

end CodeMetrics
