import CodeMetrics.Proofs.Path
import Mathlib.Order.Basic

/-!
# The order of paths

Paths are compared by their components (`Path.order`). Components are compared by their kinds and
then by their names, which makes the order of paths a total order in which two paths are equal
exactly if they have the same components, whatever their texts are (`Path.order_eq_iff`).

The components of the path of an entry are those of the directory and the name
(`Path.components_join`), and the language of a source depends on the components only.
-/

namespace CodeMetrics.Path

open Std

/-! ### Components -/

namespace Component

/-- The name that a component is, if it is one. -/
def text : Component → String
  | name s => s
  | _ => ""

theorem order_eq_compareLex (a b : Component) :
    a.order b = compareLex (compareOn rank) (compareOn text) a b := by
  cases a <;> cases b <;> rfl

instance : TransCmp order := by
  have : order = compareLex (compareOn rank) (compareOn text) :=
    funext fun a => funext fun b => order_eq_compareLex a b
  rw [this]
  infer_instance

instance : LawfulEqCmp order where
  eq_of_compare {a b} h := by
    rw [order_eq_compareLex, compareLex, Ordering.then_eq_eq] at h
    have hrank : a.rank = b.rank := LawfulEqCmp.eq_of_compare h.1
    have htext : a.text = b.text := LawfulEqCmp.eq_of_compare h.2
    cases a <;> cases b <;> simp_all [rank, text]

end Component

/-! ### Paths -/

theorem orderComponents_eq_compareLex (as bs : List Component) :
    orderComponents as bs = List.compareLex Component.order as bs := by
  fun_induction orderComponents as bs with
  | case1 | case2 | case3 => rfl
  | case4 a as b bs ih => rw [ih, List.compareLex_cons_cons]

/-- Components of paths are ordered totally. -/
instance : TransCmp orderComponents := by
  have : orderComponents = List.compareLex Component.order :=
    funext fun as => funext fun bs => orderComponents_eq_compareLex as bs
  rw [this]
  infer_instance

/-- Components of paths that are equal in the order are equal. -/
instance : LawfulEqCmp orderComponents where
  eq_of_compare h := LawfulEqCmp.eq_of_compare (orderComponents_eq_compareLex _ _ ▸ h)

instance : TransCmp order where
  eq_swap {a b} := by
    change orderComponents (components a) (components b) = _
    exact OrientedCmp.eq_swap
  isLE_trans {a b c} := by
    change (orderComponents (components a) (components b)).isLE = true → _
    exact TransCmp.isLE_trans

/-- **Paths are equal in the order** exactly if they have the same components. -/
theorem order_eq_iff {a b : String} : order a b = .eq ↔ components a = components b := by
  change orderComponents (components a) (components b) = .eq ↔ _
  exact LawfulEqCmp.compare_eq_iff_eq

/-! ### Entries of directories, and what is below them -/

section

variable {directory name : String}

/-- **The components of the path of an entry** are those of the directory and the name. -/
theorem components_join (hd : directory ≠ "") (hn : IsName name) :
    components (join directory name) = components directory ++ [.name name] := by
  obtain ⟨above, hne, hsegments, habove⟩ := exists_segments_join hd hn
  obtain ⟨first, rest, rfl⟩ := List.exists_cons_of_ne_nil hne
  have hjoin : components (join directory name) =
      (if isAbsolute directory then [Component.root]
        else (Component.ofFirstSegment? first).toList) ++
        rest.filterMap Component.ofSegment? ++ [.name name] := by
    rw [components, hsegments, isAbsolute_join hd]
    simp [hn.ofSegment?_eq]
  have hdirectory : components directory =
      (if isAbsolute directory then [Component.root]
        else (Component.ofFirstSegment? first).toList) ++
        rest.filterMap Component.ofSegment? := by
    -- a slash at the end adds a segment that is no component
    rcases habove with habove | habove
    · rw [components, habove]
    · rw [components, habove]
      simp [Component.ofSegment?]
  rw [hjoin, hdirectory]

/-- The path of what is reached from a directory by names. -/
def descend (directory : String) (names : List String) : String := names.foldl join directory

theorem components_descend (hd : directory ≠ "") {names : List String}
    (hn : ∀ name ∈ names, IsName name) :
    components (descend directory names) = components directory ++ names.map .name := by
  induction names generalizing directory with
  | nil => simp [descend]
  | cons name names ih =>
    obtain ⟨hname, hnames⟩ := List.forall_mem_cons.1 hn
    rw [descend, List.foldl_cons, ← descend, ih (join_ne_empty hd) hnames, components_join hd hname,
      List.append_assoc]
    rfl

end

/-- The language of a path depends on its components only. -/
theorem ofPath?_congr {a b : String} (h : components a = components b) :
    Language.ofPath? a = Language.ofPath? b := by
  rw [Language.ofPath?, Language.ofPath?, extension?, extension?, fileName?, fileName?, h]

end CodeMetrics.Path
