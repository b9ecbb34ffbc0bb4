import CodeMetrics.Keyed
import Mathlib.Data.List.Basic
import Mathlib.Data.String.Basic

/-!
# Keyed lists as finite maps

A keyed list keeps its names in increasing order (`Keyed.Sorted`), so it is determined by the values
under its names (`Keyed.Sorted.ext`). That makes it independent of the order in which values are put
under names, as long as the value under a name does not depend on the order either: then it
tabulates a function (`Keyed.Tabulates`), and nothing is left to choose but the names.
-/

namespace CodeMetrics.Keyed

variable {α : Type}

/-! ### The value under a name -/

theorem lookup_cons {κ : Type} [BEq κ] [LawfulBEq κ] [DecidableEq κ] (name : κ) (e : κ × α)
    (es : List (κ × α)) :
    (e :: es).lookup name = if name = e.1 then some e.2 else es.lookup name := by
  rw [List.lookup_cons]
  by_cases h : name = e.1
  · simp [h]
  · simp [h, beq_false_of_ne h]

theorem lookup_insertEntry (name other : String) (value : α) (es : List (String × α)) :
    (insertEntry name value es).lookup other =
      if other = name then some value else es.lookup other := by
  induction es with
  | nil => rw [insertEntry, lookup_cons]
  | cons e es ih =>
    rw [insertEntry]
    split
    · rw [lookup_cons]
    · split
      · next heq =>
        rw [lookup_cons, lookup_cons, ← heq]
        by_cases h : other = name <;> simp [h]
      · next hne =>
        -- the name comes later, so it is not the first one
        rw [lookup_cons, lookup_cons, ih]
        by_cases h : other = e.1
        · have hother : other ≠ name := fun hname => hne (hname.symm.trans h)
          rw [if_pos h, if_neg hother, if_pos h]
        · rw [if_neg h, if_neg h]

@[simp] theorem get?_insert (m : Keyed α) (name other : String) (value : α) :
    (m.insert name value).get? other = if other = name then some value else m.get? other :=
  lookup_insertEntry name other value m.entries

@[simp] theorem get?_empty (name : String) : ({} : Keyed α).get? name = none := rfl

theorem mem_names {m : Keyed α} {name : String} :
    name ∈ m.names ↔ ∃ value, m.get? name = some value := by
  rw [← Option.isSome_iff_exists, get?, List.lookup_isSome_iff, names, List.mem_map]
  simp only [beq_iff_eq]
  exact ⟨fun ⟨e, he, h⟩ => ⟨e, he, h.symm⟩, fun ⟨e, he, h⟩ => ⟨e, he, h.symm⟩⟩

theorem isEmpty_iff {m : Keyed α} : m.isEmpty ↔ ∀ name, name ∉ m.names := by
  rw [isEmpty, List.isEmpty_iff, ← List.eq_nil_iff_forall_not_mem, names, List.map_eq_nil_iff]

/-! ### Increasing names -/

/-- Whether the names increase. -/
def Sorted (m : Keyed α) : Prop := m.entries.Pairwise fun a b => a.1 < b.1

theorem sorted_empty : ({} : Keyed α).Sorted := .nil

theorem mem_insertEntry {name : String} {value : α} {e : String × α} {es : List (String × α)}
    (h : e ∈ insertEntry name value es) : e = (name, value) ∨ e ∈ es := by
  induction es with
  | nil => exact Or.inl (List.mem_singleton.1 h)
  | cons f es ih =>
    rw [insertEntry] at h
    split at h
    · exact List.mem_cons.1 h
    · split at h
      · rcases List.mem_cons.1 h with h | h
        · exact Or.inl h
        · exact Or.inr (List.mem_cons_of_mem f h)
      · rcases List.mem_cons.1 h with rfl | h
        · exact Or.inr List.mem_cons_self
        · exact (ih h).imp_right (List.mem_cons_of_mem f)

theorem pairwise_insertEntry (name : String) (value : α) {es : List (String × α)}
    (h : es.Pairwise fun a b => a.1 < b.1) :
    (insertEntry name value es).Pairwise fun a b => a.1 < b.1 := by
  induction es with
  | nil => exact List.pairwise_singleton _ _
  | cons e es ih =>
    obtain ⟨he, hes⟩ := List.pairwise_cons.1 h
    rw [insertEntry]
    split
    · next hlt =>
      refine List.pairwise_cons.2 ⟨fun f hf => ?_, h⟩
      rcases List.mem_cons.1 hf with rfl | hf
      · exact hlt
      · exact String.lt_trans hlt (he f hf)
    · next hle =>
      split
      · next heq =>
        subst heq
        exact List.pairwise_cons.2 ⟨he, hes⟩
      · next hne =>
        have hlt : e.1 < name := lt_of_le_of_ne (not_lt.1 hle) (Ne.symm hne)
        refine List.pairwise_cons.2 ⟨fun f hf => ?_, ih hes⟩
        rcases mem_insertEntry hf with rfl | hf
        · exact hlt
        · exact he f hf

namespace Sorted

variable {m n : Keyed α}

theorem insert (h : m.Sorted) (name : String) (value : α) : (m.insert name value).Sorted :=
  pairwise_insertEntry name value h

theorem pairwise_names (h : m.Sorted) : m.names.Pairwise (· < ·) := List.pairwise_map.2 h

theorem nodup_names (h : m.Sorted) : m.names.Nodup := h.pairwise_names.imp fun hlt => hlt.ne

theorem mem_entries (h : m.Sorted) {name : String} {value : α} :
    (name, value) ∈ m.entries ↔ m.get? name = some value := by
  obtain ⟨es⟩ := m
  rw [get?]
  induction es with
  | nil => simp
  | cons e es ih =>
    obtain ⟨he, hes⟩ := List.pairwise_cons.1 h
    rw [List.mem_cons, lookup_cons]
    by_cases hname : name = e.1
    · -- the name does not come again
      subst hname
      have hes : (e.1, value) ∉ es := fun hmem =>
        String.lt_irrefl e.1 (he (e.1, value) hmem)
      simp [hes, Prod.ext_iff, eq_comm]
    · have hne : (name, value) ≠ e := fun heq => hname (heq ▸ rfl)
      rw [if_neg hname, ← ih hes]
      simp [hne]

/-- **A sorted keyed list is determined by the values under its names.** -/
theorem ext (hm : m.Sorted) (hn : n.Sorted) (h : ∀ name, m.get? name = n.get? name) : m = n := by
  have hmem (e : String × α) : e ∈ m.entries ↔ e ∈ n.entries := by
    rw [hm.mem_entries, hn.mem_entries, h]
  have hnodup {k : Keyed α} (hk : k.Sorted) : k.entries.Nodup :=
    hk.imp fun hlt heq => absurd (heq ▸ hlt) (String.lt_irrefl _)
  have hperm := (List.perm_ext_iff_of_nodup (hnodup hm) (hnodup hn)).2 hmem
  have hentries : m.entries = n.entries := by
    refine hperm.eq_of_pairwise (fun a b _ _ hab hba => ?_) hm hn
    exact absurd hba (String.lt_asymm hab)
  cases m
  cases n
  exact congrArg _ hentries

end Sorted

/-! ### Tabulating a function -/

/-- **A keyed list that tabulates a function on some names**: it has a value under a name exactly if
the name is one of them and the function gives the value. -/
structure Tabulates (f : String → Option α) (names : List String) (m : Keyed α) : Prop where
  sorted : m.Sorted
  get?_eq_some : ∀ {name value}, m.get? name = some value ↔ name ∈ names ∧ f name = some value

namespace Tabulates

variable {f : String → Option α} {names names' : List String} {name : String} {m m' : Keyed α}

theorem empty : Tabulates f [] {} where
  sorted := sorted_empty
  get?_eq_some := by simp

theorem insert (h : Tabulates f names m) {value : α} (hf : f name = some value) :
    Tabulates f (name :: names) (m.insert name value) where
  sorted := h.sorted.insert name value
  get?_eq_some {other v} := by
    rw [get?_insert]
    by_cases hother : other = name
    · simp [hother, hf]
    · simp [hother, h.get?_eq_some]

theorem skip (h : Tabulates f names m) (hf : f name = none) : Tabulates f (name :: names) m where
  sorted := h.sorted
  get?_eq_some {other v} := by
    rw [h.get?_eq_some, List.mem_cons]
    by_cases hother : other = name
    · simp [hother, hf]
    · simp [hother]

theorem mem_names (h : Tabulates f names m) : name ∈ m.names ↔ name ∈ names ∧ (f name).isSome := by
  simp only [Keyed.mem_names, h.get?_eq_some, exists_and_left, Option.isSome_iff_exists]

/-- Nothing but the names decides what is tabulated. -/
theorem eq_of_mem_iff (h : Tabulates f names m) (h' : Tabulates f names' m')
    (hmem : ∀ name, name ∈ names ↔ name ∈ names') : m = m' := by
  refine h.sorted.ext h'.sorted fun name => Option.ext fun value => ?_
  rw [h.get?_eq_some, h'.get?_eq_some, hmem]

end Tabulates

end CodeMetrics.Keyed
