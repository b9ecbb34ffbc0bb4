import CodeMetrics.Text.Split

/-!
# Where text is cut

What `Text.splitFirst?` and `Text.splitLast?` find, said by the text they cut: a cut is the first
one if no other way to write the text around the separator has less before it, and the last one if
none has more. Where the separator is one character, a text that is cut in two has the pieces of
both parts (`Text.splitOn_append`).
-/

namespace CodeMetrics.Text

theorem afterPrefix?_eq_some_iff {sep cs rest : List Char} :
    afterPrefix? sep cs = some rest ↔ cs = sep ++ rest := by
  fun_induction afterPrefix? sep cs with
  | case1 cs => simp
  | case2 s sep => simp
  | case3 sep c cs ih => simp [ih]
  | case4 s sep c cs h =>
    simp only [reduceCtorEq, List.cons_append, List.cons.injEq, false_iff, not_and]
    exact fun hc => absurd hc.symm h

/-! ### The first cut and the last one -/

/-- The first occurrence of a separator: `before` and `after` stand around it, and no occurrence has
less before it. -/
structure IsFirstCut (sep cs before after : List Char) : Prop where
  eq : cs = before ++ sep ++ after
  first : ∀ b a, cs = b ++ sep ++ a → before.length ≤ b.length

theorem splitFirst?_eq_none {sep cs : List Char} (h : splitFirst? sep cs = none)
    (before after : List Char) : cs ≠ before ++ sep ++ after := by
  induction cs generalizing before with
  | nil =>
    cases sep with
    | nil => cases h
    | cons s sep => simp
  | cons c cs ih =>
    rw [splitFirst?] at h
    cases hc : afterPrefix? sep (c :: cs) with
    | some rest => simp [hc] at h
    | none =>
      simp only [hc, Option.map_eq_none_iff] at h
      intro heq
      cases before with
      | nil =>
        rw [List.nil_append] at heq
        rw [afterPrefix?_eq_some_iff.2 heq] at hc
        cases hc
      | cons b bs => exact ih h bs (List.cons.inj heq).2

theorem isFirstCut_of_splitFirst? {sep cs before after : List Char}
    (h : splitFirst? sep cs = some (before, after)) : IsFirstCut sep cs before after := by
  induction cs generalizing before with
  | nil =>
    cases sep with
    | nil =>
      cases h
      exact ⟨rfl, fun b a _ => Nat.zero_le _⟩
    | cons s sep => simp [splitFirst?] at h
  | cons c cs ih =>
    rw [splitFirst?] at h
    cases hc : afterPrefix? sep (c :: cs) with
    | some rest =>
      simp only [hc, Option.some.injEq, Prod.mk.injEq] at h
      obtain ⟨rfl, rfl⟩ := h
      exact ⟨afterPrefix?_eq_some_iff.1 hc, fun b a _ => Nat.zero_le _⟩
    | none =>
      simp only [hc, Option.map_eq_some_iff, Prod.mk.injEq] at h
      obtain ⟨⟨bs, rest⟩, hcs, rfl, rfl⟩ := h
      obtain ⟨heq, hfirst⟩ := ih hcs
      refine ⟨by simp [heq], fun b a hba => ?_⟩
      cases b with
      | nil =>
        rw [List.nil_append] at hba
        rw [afterPrefix?_eq_some_iff.2 hba] at hc
        cases hc
      | cons b bs' => exact Nat.succ_le_succ (hfirst bs' a (List.cons.inj hba).2)

/-- There is one first cut only. -/
theorem IsFirstCut.unique {sep cs before after before' after' : List Char}
    (h : IsFirstCut sep cs before after) (h' : IsFirstCut sep cs before' after') :
    before = before' ∧ after = after' := by
  have hlength := Nat.le_antisymm (h.first _ _ h'.eq) (h'.first _ _ h.eq)
  have heq := h.eq.symm.trans h'.eq
  rw [List.append_assoc, List.append_assoc] at heq
  obtain ⟨hbefore, hafter⟩ := List.append_inj heq hlength
  exact ⟨hbefore, List.append_cancel_left hafter⟩

/-- The first cut of a string. -/
theorem isFirstCut_toList_iff {sep name first rest : String} :
    IsFirstCut sep.toList name.toList first.toList rest.toList ↔
      name = first ++ sep ++ rest ∧
        ∀ b a, name = b ++ sep ++ a → first.length ≤ b.length := by
  have heq (b a : String) :
      name.toList = b.toList ++ sep.toList ++ a.toList ↔ name = b ++ sep ++ a := by
    rw [← String.toList_append, ← String.toList_append, String.toList_inj]
  constructor
  · rintro ⟨hname, hfirst⟩
    refine ⟨(heq first rest).1 hname, fun b a hba => ?_⟩
    simpa [String.length_toList] using hfirst b.toList a.toList ((heq b a).2 hba)
  · rintro ⟨hname, hfirst⟩
    refine ⟨(heq first rest).2 hname, fun b a hba => ?_⟩
    have := hfirst (String.ofList b) (String.ofList a) ((heq _ _).1 (by simpa using hba))
    simpa [String.length_toList] using this

/-- The last occurrence of a separator: `before` and `after` stand around it, and no occurrence has
more before it. -/
structure IsLastCut (sep cs before after : List Char) : Prop where
  eq : cs = before ++ sep ++ after
  last : ∀ b a, cs = b ++ sep ++ a → b.length ≤ before.length

theorem splitLast?_eq_none {sep cs : List Char} (hsep : sep ≠ []) (h : splitLast? sep cs = none)
    (before after : List Char) : cs ≠ before ++ sep ++ after := by
  induction cs generalizing before with
  | nil => simp [hsep]
  | cons c cs ih =>
    rw [splitLast?] at h
    cases hs : splitLast? sep cs with
    | some cut => simp [hs] at h
    | none =>
      simp only [hs, Option.map_eq_none_iff] at h
      intro heq
      cases before with
      | nil =>
        rw [List.nil_append] at heq
        rw [afterPrefix?_eq_some_iff.2 heq] at h
        cases h
      | cons b bs => exact ih hs bs (List.cons.inj heq).2

theorem isLastCut_of_splitLast? {sep cs before after : List Char} (hsep : sep ≠ [])
    (h : splitLast? sep cs = some (before, after)) : IsLastCut sep cs before after := by
  induction cs generalizing before with
  | nil =>
    cases sep with
    | nil => exact absurd rfl hsep
    | cons s sep => simp [splitLast?] at h
  | cons c cs ih =>
    rw [splitLast?] at h
    cases hs : splitLast? sep cs with
    | some cut =>
      simp only [hs, Option.some.injEq, Prod.mk.injEq] at h
      obtain ⟨rfl, rfl⟩ := h
      obtain ⟨heq, hlast⟩ := ih hs
      refine ⟨by simp [heq], fun b a hba => ?_⟩
      cases b with
      | nil => simp
      | cons b bs =>
        have := hlast bs a (List.cons.inj hba).2
        simpa using this
    | none =>
      simp only [hs, Option.map_eq_some_iff, Prod.mk.injEq] at h
      obtain ⟨rest, hrest, rfl, rfl⟩ := h
      refine ⟨afterPrefix?_eq_some_iff.1 hrest, fun b a hba => ?_⟩
      cases b with
      | nil => simp
      | cons b bs => exact absurd (List.cons.inj hba).2 (splitLast?_eq_none hsep hs bs a)

/-- The last cut at a character that does not occur after it. -/
theorem splitLast?_append {c : Char} {after : List Char} (h : c ∉ after) (before : List Char) :
    splitLast? [c] (before ++ c :: after) = some (before, after) := by
  have hafter : splitLast? [c] after = none := by
    induction after with
    | nil => rfl
    | cons d after ih =>
      simp only [List.mem_cons, not_or] at h
      simp [splitLast?, ih h.2, afterPrefix?, h.1]
  induction before with
  | nil => simp [splitLast?, hafter, afterPrefix?]
  | cons d before ih => simp [splitLast?, ih]

/-! ### Every cut -/

section

variable {c : Char}

theorem splitFirst?_of_not_mem {cs : List Char} (h : c ∉ cs) : splitFirst? [c] cs = none := by
  induction cs with
  | nil => rfl
  | cons d cs ih =>
    simp only [List.mem_cons, not_or] at h
    simp [splitFirst?, afterPrefix?, h.1, ih h.2]

theorem splitFirst?_append {before : List Char} (h : c ∉ before) (after : List Char) :
    splitFirst? [c] (before ++ c :: after) = some (before, after) := by
  induction before with
  | nil => simp [splitFirst?, afterPrefix?]
  | cons d before ih =>
    simp only [List.mem_cons, not_or] at h
    simp [splitFirst?, afterPrefix?, h.1, ih h.2]

theorem splitOnWith_of_not_mem {cs : List Char} (h : c ∉ cs) (fuel : Nat) :
    splitOnWith [c] fuel cs = [cs] := by
  cases fuel with
  | zero => rfl
  | succ fuel => rw [splitOnWith, splitFirst?_of_not_mem h]

theorem splitOnWith_append {before : List Char} (h : c ∉ before) (fuel : Nat) (after : List Char) :
    splitOnWith [c] (fuel + 1) (before ++ c :: after) = before :: splitOnWith [c] fuel after := by
  rw [splitOnWith, splitFirst?_append h]

/-- There are never more cuts than characters, so counting further changes nothing. -/
theorem splitOnWith_congr {fuel fuel' : Nat} {cs : List Char} (h : cs.length ≤ fuel)
    (h' : cs.length ≤ fuel') : splitOnWith [c] fuel cs = splitOnWith [c] fuel' cs := by
  induction fuel generalizing fuel' cs with
  | zero =>
    obtain rfl := List.eq_nil_of_length_eq_zero (Nat.le_zero.1 h)
    rw [splitOnWith_of_not_mem List.not_mem_nil, splitOnWith_of_not_mem List.not_mem_nil]
  | succ fuel ih =>
    by_cases hc : c ∈ cs
    · obtain ⟨before, after, rfl, hbefore⟩ := List.eq_append_cons_of_mem hc
      rw [List.length_append, List.length_cons] at h h'
      obtain ⟨fuel', rfl⟩ : ∃ k, fuel' = k + 1 := ⟨fuel' - 1, by omega⟩
      rw [splitOnWith_append hbefore, splitOnWith_append hbefore]
      exact congrArg _ (ih (by omega) (by omega))
    · rw [splitOnWith_of_not_mem hc, splitOnWith_of_not_mem hc]

theorem splitOn_of_not_mem {cs : List Char} (h : c ∉ cs) : splitOn [c] cs = [cs] :=
  splitOnWith_of_not_mem h _

theorem splitOn_cons_cut {before : List Char} (h : c ∉ before) (after : List Char) :
    splitOn [c] (before ++ c :: after) = before :: splitOn [c] after := by
  have hlength : (before ++ c :: after).length = before.length + after.length + 1 := by
    simp [Nat.add_assoc]
  rw [splitOn, hlength, splitOnWith_append h, splitOn]
  exact congrArg _ (splitOnWith_congr (Nat.le_add_left _ _) (Nat.le_refl _))

/-- **The pieces of a text that is cut in two** are the pieces of both parts. -/
theorem splitOn_append (cs after : List Char) :
    splitOn [c] (cs ++ c :: after) = splitOn [c] cs ++ splitOn [c] after := by
  induction hn : cs.length using Nat.strongRecOn generalizing cs with
  | _ n ih =>
    subst hn
    by_cases hc : c ∈ cs
    · obtain ⟨before, rest, rfl, hbefore⟩ := List.eq_append_cons_of_mem hc
      have hrest := ih rest.length (by simp; omega) rest rfl
      rw [List.append_assoc, List.cons_append, splitOn_cons_cut hbefore, splitOn_cons_cut hbefore,
        hrest, List.cons_append]
    · rw [splitOn_cons_cut hc, splitOn_of_not_mem hc, List.singleton_append]

theorem splitOn_ne_nil (cs : List Char) : splitOn [c] cs ≠ [] := by
  by_cases hc : c ∈ cs
  · obtain ⟨before, rest, rfl, hbefore⟩ := List.eq_append_cons_of_mem hc
    rw [splitOn_cons_cut hbefore]
    exact List.cons_ne_nil _ _
  · rw [splitOn_of_not_mem hc]
    exact List.cons_ne_nil _ _

end

end CodeMetrics.Text
