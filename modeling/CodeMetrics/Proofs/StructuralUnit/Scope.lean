import CodeMetrics.Proofs.Text.Split
import CodeMetrics.StructuralUnit.Scope

/-!
# The names that a namespace makes known

A namespace is opened under a qualified name, and what becomes known is that name together with the
names of the namespaces that it passes through: the beginnings of the qualified name that end before
a separator or at its end. `StructuralUnit.IsBeginning` says this by the segments of the name, and
not by how they are collected.

Segments may be empty, as those of a name that starts with a separator are, and joining them again
leaves out the empty ones in front. What has been joined so far, `StructuralUnit.rejoined`, is what
collecting keeps from segment to segment (`StructuralUnit.mem_segmentPrefixes`).
-/

namespace CodeMetrics.StructuralUnit

/-- **The segments of a name**: what stands between its separators, which are found from the
left. -/
inductive Segments : String → List String → Prop
  | last {name : String} (h : ∀ b a, name ≠ b ++ "::" ++ a) : Segments name [name]
  | cut {name first rest : String} {segments : List String} (hname : name = first ++ "::" ++ rest)
      (hfirst : ∀ b a, name = b ++ "::" ++ a → first.length ≤ b.length)
      (hrest : Segments rest segments) : Segments name (first :: segments)

/-- Segments joined again, less the empty ones in front. -/
def rejoined (segments : List String) : String :=
  "::".intercalate (segments.dropWhile (· = ""))

/-- **A beginning of a qualified name**: its first segments, one at least, joined again. -/
def IsBeginning (qualified name : String) : Prop :=
  ∃ segments, Segments qualified segments ∧
    ∃ k < segments.length, name = rejoined (segments.take (k + 1))

/-! ### Segments -/

theorem Segments.unique {name : String} {segments segments' : List String}
    (h : Segments name segments) (h' : Segments name segments') : segments = segments' := by
  induction h generalizing segments' with
  | last hnone =>
    cases h' with
    | last => rfl
    | cut hname => exact absurd hname (hnone _ _)
  | cut hname hfirst hrest ih =>
    cases h' with
    | last hnone => exact absurd hname (hnone _ _)
    | cut hname' hfirst' hrest' =>
      -- two first cuts of one name are the same cut
      have hcut := Text.isFirstCut_toList_iff.2 ⟨hname, hfirst⟩
      obtain ⟨hbefore, hafter⟩ := hcut.unique (Text.isFirstCut_toList_iff.2 ⟨hname', hfirst'⟩)
      obtain rfl := String.toList_inj.1 hbefore
      obtain rfl := String.toList_inj.1 hafter
      rw [ih hrest']

/-- Cutting finds the segments: there are never more cuts than characters. -/
theorem segments_splitOnWith {fuel : Nat} {name : String} (h : name.length ≤ fuel) :
    Segments name
      ((Text.splitOnWith Scope.separator.toList fuel name.toList).map String.ofList) := by
  have hlast (name : String) (hnone : ∀ b a, name ≠ b ++ "::" ++ a) :
      Segments name ([name.toList].map String.ofList) := by
    simpa using Segments.last hnone
  induction fuel generalizing name with
  | zero =>
    obtain rfl : name = "" := by simpa [String.length_eq_zero_iff] using h
    exact hlast "" fun b a heq => by simpa using congrArg String.toList heq
  | succ fuel ih =>
    rw [Text.splitOnWith]
    split
    · next before after hcut =>
      obtain ⟨first, rfl⟩ : ∃ s, String.toList s = before := ⟨_, String.toList_ofList⟩
      obtain ⟨rest, rfl⟩ : ∃ s, String.toList s = after := ⟨_, String.toList_ofList⟩
      obtain ⟨hname, hfirst⟩ := Text.isFirstCut_toList_iff.1 (Text.isFirstCut_of_splitFirst? hcut)
      have hshorter : rest.length ≤ fuel := by
        have hlength := congrArg String.length hname
        have hsep : "::".length = 2 := rfl
        simp only [String.length_append, Scope.separator, hsep] at hlength
        omega
      rw [List.map_cons, String.ofList_toList]
      exact .cut hname hfirst (ih hshorter)
    · next hnone =>
      refine hlast name fun b a heq => Text.splitFirst?_eq_none hnone b.toList a.toList ?_
      simp [heq, Scope.separator]

/-! ### Joining -/

/-- One more segment: it stands alone after nothing, and after a separator otherwise. -/
theorem rejoined_concat (segments : List String) (s : String) :
    rejoined (segments ++ [s]) =
      if rejoined segments = "" then s else rejoined segments ++ "::" ++ s := by
  unfold rejoined
  rw [List.dropWhile_append]
  cases hd : segments.dropWhile (· = "") with
  | nil =>
    by_cases hs : s = "" <;> simp [hs]
  | cons first rest =>
    have hfirst : first ≠ "" := by
      have := List.head_dropWhile_not (fun s : String => decide (s = "")) (l := segments)
        (by simp [hd])
      simpa [hd] using this
    have hne : "::".intercalate (first :: rest) ≠ "" := by
      intro he
      have := congrArg String.toList he
      cases rest <;> simp_all
    rw [if_neg hne, ← String.intercalate_singleton (s := "::") (t := s),
      ← String.intercalate_append_of_ne_nil (by simp) (by simp)]
    simp

/-- **What is collected after some segments**: with each further one the beginning that ends
there. -/
theorem mem_segmentPrefixes {done : List String} {segments : List (List Char)} {name : String} :
    name ∈ Scope.segmentPrefixes (rejoined done).toList segments ↔
      ∃ k < segments.length,
        name = rejoined (done ++ (segments.map String.ofList).take (k + 1)) := by
  -- every step hands on what is joined so far, so `done` grows by one segment
  induction segments generalizing done with
  | nil => simp [Scope.segmentPrefixes]
  | cons s segments ih =>
    have hnext : (if (rejoined done).toList.isEmpty then s
        else (rejoined done).toList ++ Scope.separator.toList ++ s) =
        (rejoined (done ++ [String.ofList s])).toList := by
      rw [rejoined_concat]
      by_cases hd : rejoined done = "" <;> simp [hd, Scope.separator]
    rw [Scope.segmentPrefixes, hnext, List.mem_cons, ih, String.ofList_toList]
    constructor
    · rintro (rfl | ⟨k, hk, rfl⟩)
      · exact ⟨0, by simp, by simp⟩
      · exact ⟨k + 1, by simpa using hk, by simp⟩
    · rintro ⟨k, hk, rfl⟩
      cases k with
      | zero => exact Or.inl (by simp)
      | succ k => exact Or.inr ⟨k, by simpa using hk, by simp⟩

/-- **The names that become known** with a namespace are the beginnings of its qualified name. -/
theorem mem_openedNames {qualified name : String} :
    name ∈ Scope.openedNames qualified ↔ IsBeginning qualified name := by
  have hsegments : Segments qualified
      ((Text.splitOn Scope.separator.toList qualified.toList).map String.ofList) :=
    segments_splitOnWith (Nat.le_of_eq String.length_toList.symm)
  have hmem : name ∈ Scope.openedNames qualified ↔ _ := @mem_segmentPrefixes [] _ name
  constructor
  · intro h
    obtain ⟨k, hk, hname⟩ := hmem.1 h
    exact ⟨_, hsegments, k, by simpa using hk, hname⟩
  · rintro ⟨segments, hs, k, hk, hname⟩
    obtain rfl := hs.unique hsegments
    exact hmem.2 ⟨k, by simpa using hk, hname⟩

end CodeMetrics.StructuralUnit
