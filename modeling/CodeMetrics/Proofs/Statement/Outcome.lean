import CodeMetrics.Proofs.Statement.Visit

/-!
# Outcomes of building

Building may fail, and counts the lambdas it merges. `Build.Outcome` says of a computation both what
it gives and which faults make it fail: with no fault there, it succeeds with a given result; with
some, it fails with one of them. Outcomes compose along the computation (`Build.Outcome.bind`), and
this is all that the proofs about building use of the monad.

`Build.Builds` is the case where the faults and the lambdas are those of a list of visits.
-/

namespace CodeMetrics.Build

open Cst Visit

/-- **What building comes to**: either it gives `a` after `lambdas` more lambdas, and none of the
faults is there, or it fails with one of the faults. -/
def Outcome {α : Type} (m : Build α) (fault : NormalizationError → Prop) (a : α) (lambdas : Nat) :
    Prop :=
  ∀ s, (m.run s = .ok (a, s + lambdas) ∧ ∀ e, ¬fault e) ∨ ∃ e, fault e ∧ m.run s = .error e

namespace Outcome

variable {α β : Type} {F G : NormalizationError → Prop}

theorem pure (a : α) : Outcome (Pure.pure a) (fun _ => False) a 0 :=
  fun _ => Or.inl ⟨rfl, fun _ => id⟩

theorem fail {n : Node} {fault : NormalizationFault} (h : F (errorAt n fault)) (a : α) (i : Nat) :
    Outcome (Build.fail n fault) F a i :=
  fun _ => Or.inr ⟨errorAt n fault, h, rfl⟩

theorem fail_bind {n : Node} {fault : NormalizationFault} (h : F (errorAt n fault))
    (f : α → Build β) (b : β) (i : Nat) : Outcome (Build.fail n fault >>= f) F b i :=
  fun _ => Or.inr ⟨errorAt n fault, h, rfl⟩

theorem bind {m : Build α} {f : α → Build β} {a : α} {b : β} {i j : Nat}
    (hm : Outcome m F a i) (hf : Outcome (f a) G b j) :
    Outcome (m >>= f) (fun e => F e ∨ G e) b (i + j) := by
  intro s
  rcases hm s with ⟨hs, hF⟩ | ⟨e, he, hs⟩
  · rcases hf (s + i) with ⟨ht, hG⟩ | ⟨e, he, ht⟩
    · left
      refine ⟨?_, fun e he => he.elim (hF e) (hG e)⟩
      rw [StateT.run_bind, hs, ← Nat.add_assoc]
      exact ht
    · right
      refine ⟨e, Or.inr he, ?_⟩
      rw [StateT.run_bind, hs]
      exact ht
  · right
    refine ⟨e, Or.inl he, ?_⟩
    rw [StateT.run_bind, hs]
    rfl

theorem map {m : Build α} {a : α} {i : Nat} (f : α → β) (hm : Outcome m F a i) :
    Outcome (do let x ← m; return f x) F (f a) i := by
  simpa using bind (f := fun x => Pure.pure (f x)) hm (pure (f a))

theorem congr {m : Build α} {a b : α} {i j : Nat} (h : Outcome m F a i) (hF : ∀ e, F e ↔ G e)
    (ha : a = b) (hi : i = j) : Outcome m G b j := by
  obtain rfl : F = G := funext fun e => propext (hF e)
  subst ha hi
  exact h

end Outcome

/-- **Building that goes over visits**: it gives `a` after as many lambdas as there are among the
visits, and none of them has a fault, or it fails with a fault of one of them. -/
abbrev Builds {α : Type} (m : Build α) (vs : List Visit) (a : α) : Prop :=
  Outcome m (Faults vs) a (lambdaCount vs)

namespace Builds

variable {α β : Type}

theorem pure (a : α) : Builds (Pure.pure a) [] a :=
  (Outcome.pure a).congr (by simp) rfl rfl

theorem bind {m : Build α} {f : α → Build β} {a : α} {b : β} {vs ws : List Visit}
    (hm : Builds m vs a) (hf : Builds (f a) ws b) : Builds (m >>= f) (vs ++ ws) b :=
  (Outcome.bind hm hf).congr (by simp) rfl (by simp)

theorem cons {m : Build α} {a : α} {v : Visit} {vs : List Visit} (hm : Builds m vs a)
    (hv : ∀ e, ¬v.Offends e) (hl : v.position ≠ .lambda) : Builds m (v :: vs) a :=
  Outcome.congr hm (by simp [hv]) rfl (by simp [lambdaCount_cons, isLambda, hl])

end Builds

end CodeMetrics.Build
