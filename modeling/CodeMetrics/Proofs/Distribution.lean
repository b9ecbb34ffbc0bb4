import CodeMetrics.Distribution
import CodeMetrics.Proofs.Hundredths
import Mathlib.Algebra.Order.BigOperators.Group.List
import Mathlib.Algebra.Order.Ring.Nat
import Mathlib.Data.List.GetD

/-!
# What a distribution says of its values

`Distribution.of` sorts the values and reads the least, the greatest and the middle ones off by
their indices. `HasRank` says which value has an index in the sorted list, without a sorted list, by
how many values are smaller and how many are not greater; so the median is stated of the values in
whatever order they come (`Distribution.Summarizes`).

The mean is a rounded ratio, and it stays between the least and the greatest value because these are
rounded ratios too: of as many values that are all equal.

`Distribution.of?` is the same computation with every look-up, product and sum checked.
-/

namespace CodeMetrics

/-- **The value at an index of the sorted values**: at most so many values are smaller, and more are
not greater. -/
def HasRank (values : List UInt64) (index : Nat) (x : UInt64) : Prop :=
  values.countP (· < x) ≤ index ∧ index < values.countP (· ≤ x)

/-- Values of the same rank are not apart. -/
theorem HasRank.le {values : List UInt64} {index : Nat} {x y : UInt64} (hx : HasRank values index x)
    (hy : HasRank values index y) : x ≤ y := by
  by_contra hlt
  rw [UInt64.not_le] at hlt
  -- what is not greater than `y` is smaller than `x`
  have hcount : values.countP (· ≤ y) ≤ values.countP (· < x) := by
    refine List.countP_mono_left fun v _ hv => ?_
    rw [decide_eq_true_eq] at hv ⊢
    exact UInt64.lt_of_le_of_lt hv hlt
  have hle := hx.1
  have hgt := hy.2
  omega

/-- What has a rank among the values is one of them. -/
theorem HasRank.mem {values : List UInt64} {index : Nat} {x : UInt64}
    (hx : HasRank values index x) : x ∈ values := by
  by_contra hmem
  have hcount : values.countP (· ≤ x) = values.countP (· < x) := by
    refine List.countP_congr fun v hv => ?_
    rw [decide_eq_true_eq, decide_eq_true_eq, UInt64.le_iff_lt_or_eq, or_iff_left]
    rintro rfl
    exact hmem hv
  have hle := hx.1
  have hgt := hx.2
  omega

/-- The sum of words as numbers. -/
def sumOf (values : List UInt64) : Nat := (values.map UInt64.toNat).sum

section Sums

variable {values : List UInt64}

theorem toNat_le_sumOf {v : UInt64} (h : v ∈ values) : v.toNat ≤ sumOf values :=
  List.le_sum_of_mem (List.mem_map_of_mem h)

theorem sumOf_eq_of_perm {values' : List UInt64} (h : values.Perm values') :
    sumOf values = sumOf values' :=
  (h.map _).sum_eq

theorem length_mul_le_sumOf {least : UInt64} (h : ∀ v ∈ values, least ≤ v) :
    values.length * least.toNat ≤ sumOf values := by
  have hle := List.card_nsmul_le_sum (values.map UInt64.toNat) least.toNat
    (List.forall_mem_map.2 fun v hv => UInt64.le_iff_toNat_le.1 (h v hv))
  simpa [sumOf] using hle

theorem sumOf_le_length_mul {greatest : UInt64} (h : ∀ v ∈ values, v ≤ greatest) :
    sumOf values ≤ values.length * greatest.toNat := by
  have hle := List.sum_le_card_nsmul (values.map UInt64.toNat) greatest.toNat
    (List.forall_mem_map.2 fun v hv => UInt64.le_iff_toNat_le.1 (h v hv))
  simpa [sumOf] using hle

/-- Two neighbours are no more than all values. -/
theorem getElem_add_getElem_le_sumOf {i : Nat} (hi : i + 1 < values.length) :
    values[i].toNat + values[i + 1].toNat ≤ sumOf values := by
  have hdrop : values.drop i = values[i] :: values[i + 1] :: values.drop (i + 2) := by
    rw [List.drop_eq_getElem_cons (by omega), List.drop_eq_getElem_cons hi]
  have hsum : sumOf (values.drop i) ≤ sumOf values :=
    ((List.drop_sublist i values).map _).sum_le_sum fun _ _ => Nat.zero_le _
  simp only [hdrop, sumOf, List.map_cons, List.sum_cons] at hsum ⊢
  omega

end Sums

namespace Distribution

open Checked

/-! ### Sorted values -/

/-- The values in increasing order. -/
def ordered (values : List UInt64) : List UInt64 := values.mergeSort fun a b => a ≤ b

section Ordered

variable {values values' : List UInt64}

theorem ordered_perm (values : List UInt64) : (ordered values).Perm values :=
  List.mergeSort_perm values _

theorem pairwise_ordered (values : List UInt64) : (ordered values).Pairwise (· ≤ ·) := by
  have hsorted : (ordered values).Pairwise fun a b => decide (a ≤ b) :=
    List.pairwise_mergeSort (fun a b c => by simpa using UInt64.le_trans)
      (fun a b => by simpa using UInt64.le_total a b) values
  exact hsorted.imp fun h => by simpa using h

theorem ordered_eq_of_perm (h : values.Perm values') : ordered values = ordered values' := by
  refine List.Perm.eq_of_pairwise (fun a b _ _ => UInt64.le_antisymm) (pairwise_ordered values)
    (pairwise_ordered values') ?_
  exact (ordered_perm values).trans (h.trans (ordered_perm values').symm)

@[simp] theorem length_ordered (values : List UInt64) :
    (ordered values).length = values.length :=
  (ordered_perm values).length_eq

theorem ordered_ne_nil (h : values ≠ []) : ordered values ≠ [] := by
  rw [Ne, ← List.length_eq_zero_iff, length_ordered]
  exact mt List.length_eq_zero_iff.1 h

theorem getElem_ordered_le {i j : Nat} (hij : i ≤ j) (hj : j < (ordered values).length) :
    (ordered values)[i] ≤ (ordered values)[j] := by
  rcases Nat.eq_or_lt_of_le hij with rfl | hlt
  · exact UInt64.le_refl _
  · exact List.pairwise_iff_getElem.1 (pairwise_ordered values) i j _ hj hlt

/-! ### Ranks -/

/-- The value at an index of the sorted values has the rank that the index says. -/
theorem hasRank_getElem {i : Nat} (hi : i < (ordered values).length) :
    HasRank values i (ordered values)[i] := by
  have hsplit (p : UInt64 → Bool) (j : Nat) : values.countP p =
      ((ordered values).take j).countP p + ((ordered values).drop j).countP p := by
    rw [← (ordered_perm values).countP_eq, ← List.countP_append, List.take_append_drop]
  constructor
  · -- from the index on, no value is smaller
    have hdrop : ((ordered values).drop i).countP (· < (ordered values)[i]) = 0 := by
      refine List.countP_eq_zero.2 fun v hv => ?_
      obtain ⟨j, hj, rfl⟩ := List.getElem_of_mem hv
      rw [List.getElem_drop, decide_eq_true_eq, UInt64.not_lt]
      exact getElem_ordered_le (Nat.le_add_right i j) _
    have htake := List.countP_le_length (p := (· < (ordered values)[i]))
      (l := (ordered values).take i)
    rw [hsplit _ i, hdrop]
    exact Nat.le_trans htake (List.length_take_le i _)
  · -- up to the index, no value is greater
    have htake : ((ordered values).take (i + 1)).countP (· ≤ (ordered values)[i]) = i + 1 := by
      refine (List.countP_eq_length.2 fun v hv => ?_).trans (List.length_take_of_le hi)
      obtain ⟨j, hj, rfl⟩ := List.getElem_of_mem hv
      rw [List.length_take] at hj
      rw [List.getElem_take, decide_eq_true_eq]
      exact getElem_ordered_le (by omega) hi
    rw [hsplit _ (i + 1), htake]
    omega

theorem hasRank_iff {i : Nat} (hi : i < (ordered values).length) (x : UInt64) :
    HasRank values i x ↔ x = (ordered values)[i] := by
  have hrank := hasRank_getElem hi
  constructor
  · intro hx
    exact UInt64.le_antisymm (hx.le hrank) (hrank.le hx)
  · rintro rfl
    exact hrank

end Ordered

/-! ### The computation, checked -/

/-- The sum of words from the left, with every sum checked. -/
def total? (values : List UInt64) : Option UInt64 := values.foldlM add? 0

/-- The number of values, if it fits in a word. -/
def count? (values : List UInt64) : Option UInt64 :=
  if values.length < 2 ^ 64 then some (UInt64.ofNat values.length) else none

/-- The middle of sorted values, with every look-up, product and sum checked. -/
def medianOf? (sorted : List UInt64) : Option Hundredths :=
  let middle := sorted.length / 2
  if sorted.length % 2 = 1 then do
    let value ← sorted[middle]?
    let count ← mul? value 100
    return ⟨count⟩
  else do
    let below ← sorted[middle - 1]?
    let above ← sorted[middle]?
    let sum ← add? below above
    let count ← mul? sum 50
    return ⟨count⟩

/-- The distribution of values, with every look-up, product, sum and narrowing checked. -/
def of? (values : List UInt64) : Option Distribution :=
  match (ordered values).head?, (ordered values).getLast? with
  | some min, some max => do
    let median ← medianOf? (ordered values)
    let sum ← total? (ordered values)
    let count ← count? (ordered values)
    let mean ← Hundredths.ratio? sum count
    return { min, max, mean, median }
  | _, _ => some {}

/-- **Values whose distribution words have room for**: their sum can be scaled to hundredths, and
their number leaves the highest bit of a word free, as that of all values in memory does. -/
structure Fits (values : List UInt64) : Prop where
  sum_lt : 100 * sumOf values < 2 ^ 64
  length_le : values.length ≤ 2 ^ 63

/-! ### Sums of words -/

theorem foldlM_add? (values : List UInt64) (start : UInt64)
    (h : start.toNat + sumOf values < 2 ^ 64) :
    values.foldlM add? start = some (start + total id values) := by
  induction values generalizing start with
  | nil => simp
  | cons v values ih =>
    simp only [sumOf, List.map_cons, List.sum_cons] at h
    have hadd : start.toNat + v.toNat < 2 ^ 64 := by omega
    have hrest : (start + v).toNat + sumOf values < 2 ^ 64 := by
      rw [toNat_add_of_lt hadd, sumOf]
      omega
    rw [List.foldlM_cons, add?, if_pos hadd, Option.bind_eq_bind, Option.bind_some, ih _ hrest,
      total_cons, UInt64.add_assoc]
    rfl

theorem toNat_total (values : List UInt64) (h : sumOf values < 2 ^ 64) :
    (total id values).toNat = sumOf values := by
  induction values with
  | nil => rfl
  | cons v values ih =>
    simp only [sumOf, List.map_cons, List.sum_cons] at h ⊢
    have hrest := ih (by rw [sumOf]; omega)
    rw [total_cons, id_eq, toNat_add_of_lt, hrest, sumOf]
    rw [hrest, sumOf]
    exact h

namespace Fits

variable {values : List UInt64}

theorem sorted (h : Fits values) : Fits (ordered values) := by
  refine ⟨?_, ?_⟩
  · rw [sumOf_eq_of_perm (ordered_perm values)]
    exact h.sum_lt
  · rw [length_ordered]
    exact h.length_le

theorem toNat_length (h : Fits values) : (UInt64.ofNat values.length).toNat = values.length := by
  have hle := h.length_le
  rw [UInt64.toNat_ofNat', Nat.mod_eq_of_lt (by omega)]

theorem toNat_total (h : Fits values) : (total id values).toNat = sumOf values := by
  have hlt := h.sum_lt
  exact Distribution.toNat_total values (by omega)

theorem total?_eq_some (h : Fits values) : total? values = some (total id values) := by
  have hlt := h.sum_lt
  rw [total?, foldlM_add? values 0 (by simp; omega), UInt64.zero_add]

theorem count?_eq_some (h : Fits values) :
    count? values = some (UInt64.ofNat values.length) := by
  have hle := h.length_le
  exact if_pos (by omega)

/-- The mean is a ratio that words have room for. -/
theorem ratio (h : Fits values) (hne : values ≠ []) :
    Hundredths.Fits (total id values) (UInt64.ofNat values.length) := by
  refine ⟨UInt64.lt_iff_toNat_lt.2 ?_, ?_, ?_⟩
  · rw [h.toNat_length]
    exact List.length_pos_iff.2 hne
  · rw [h.toNat_total]
    exact h.sum_lt
  · rw [h.toNat_length]
    exact h.length_le

/-- **The mean is rounded** as the ratio of the sum and the number of the values. -/
theorem roundsTo_mean (h : Fits values) (hne : values ≠ []) :
    RoundsTo (100 * sumOf values) values.length
      (Hundredths.ratio (total id values) (UInt64.ofNat values.length)).count.toNat := by
  have hround := (h.ratio hne).roundsTo_ratio
  rwa [h.toNat_total, h.toNat_length] at hround

/-! ### The median -/

theorem value_mul_lt (h : Fits values) {v : UInt64} (hv : v ∈ values) :
    v.toNat * (100 : UInt64).toNat < 2 ^ 64 := by
  have h100 : (100 : UInt64).toNat = 100 := rfl
  have hle := toNat_le_sumOf hv
  have hlt := h.sum_lt
  rw [h100]
  omega

theorem neighbours_add_lt (h : Fits values) {i : Nat} (hi : i + 1 < values.length) :
    values[i].toNat + values[i + 1].toNat < 2 ^ 64 := by
  have hle := getElem_add_getElem_le_sumOf hi
  have hlt := h.sum_lt
  omega

theorem neighbours_mul_lt (h : Fits values) {i : Nat} (hi : i + 1 < values.length) :
    (values[i] + values[i + 1]).toNat * (50 : UInt64).toNat < 2 ^ 64 := by
  have h50 : (50 : UInt64).toNat = 50 := rfl
  have hle := getElem_add_getElem_le_sumOf hi
  have hlt := h.sum_lt
  rw [toNat_add_of_lt (h.neighbours_add_lt hi), h50]
  omega

section Odd

variable (h : Fits values) {middle : Nat} (hodd : values.length = 2 * middle + 1)
  (hmiddle : middle < values.length)
include h hodd hmiddle

theorem medianOf?_of_odd : medianOf? values = some (medianOf values) := by
  have hparity : values.length % 2 = 1 := by omega
  have hhalf : values.length / 2 = middle := by omega
  have hmul : mul? values[middle] 100 = some (values[middle] * 100) :=
    if_pos (h.value_mul_lt (List.getElem_mem hmiddle))
  rw [medianOf?, medianOf]
  simp only [hparity, if_true, hhalf, List.getElem?_eq_getElem hmiddle,
    List.getD_eq_getElem _ _ hmiddle, Option.bind_eq_bind, Option.bind_some, hmul]
  rfl

theorem toNat_medianOf_of_odd : (medianOf values).count.toNat = 100 * values[middle].toNat := by
  have hparity : values.length % 2 = 1 := by omega
  have hhalf : values.length / 2 = middle := by omega
  rw [medianOf]
  simp only [hparity, if_true, hhalf, List.getD_eq_getElem _ _ hmiddle, Hundredths.whole]
  rw [toNat_mul_of_lt (h.value_mul_lt (List.getElem_mem hmiddle)), Nat.mul_comm]
  rfl

end Odd

section Even

variable (h : Fits values) {below : Nat} (heven : values.length = 2 * (below + 1))
  (hbelow : below < values.length) (habove : below + 1 < values.length)
include h heven hbelow habove

theorem medianOf?_of_even : medianOf? values = some (medianOf values) := by
  have hparity : values.length % 2 ≠ 1 := by omega
  have hhalf : values.length / 2 = below + 1 := by omega
  have hadd : add? values[below] values[below + 1] = some (values[below] + values[below + 1]) :=
    if_pos (h.neighbours_add_lt habove)
  have hmul : mul? (values[below] + values[below + 1]) 50 =
      some ((values[below] + values[below + 1]) * 50) := if_pos (h.neighbours_mul_lt habove)
  rw [medianOf?, medianOf]
  simp only [hparity, if_false, hhalf, Nat.add_sub_cancel, List.getElem?_eq_getElem hbelow,
    List.getElem?_eq_getElem habove, List.getD_eq_getElem _ _ hbelow,
    List.getD_eq_getElem _ _ habove, Option.bind_eq_bind, Option.bind_some, hadd, hmul]
  rfl

theorem toNat_medianOf_of_even :
    (medianOf values).count.toNat = 50 * (values[below].toNat + values[below + 1].toNat) := by
  have hparity : values.length % 2 ≠ 1 := by omega
  have hhalf : values.length / 2 = below + 1 := by omega
  rw [medianOf]
  simp only [hparity, if_false, hhalf, Nat.add_sub_cancel, List.getD_eq_getElem _ _ hbelow,
    List.getD_eq_getElem _ _ habove]
  rw [toNat_mul_of_lt (h.neighbours_mul_lt habove), toNat_add_of_lt (h.neighbours_add_lt habove),
    Nat.mul_comm]
  rfl

end Even

theorem medianOf?_eq_some (h : Fits values) (hne : values ≠ []) :
    medianOf? values = some (medianOf values) := by
  have hpos := List.length_pos_iff.2 hne
  rcases Nat.mod_two_eq_zero_or_one values.length with heven | hodd
  · obtain ⟨below, hbelow⟩ : ∃ below, values.length = 2 * (below + 1) :=
      ⟨values.length / 2 - 1, by omega⟩
    exact h.medianOf?_of_even hbelow (by omega) (by omega)
  · obtain ⟨middle, hmiddle⟩ : ∃ middle, values.length = 2 * middle + 1 :=
      ⟨values.length / 2, by omega⟩
    exact h.medianOf?_of_odd hmiddle (by omega)

end Fits

/-! ### The distribution -/

theorem of_eq {values : List UInt64} (hne : ordered values ≠ []) :
    of values =
      { min := (ordered values).head hne
        max := (ordered values).getLast hne
        mean := .ratio (total id (ordered values)) (UInt64.ofNat (ordered values).length)
        median := medianOf (ordered values) } := by
  change (match (ordered values).head?, (ordered values).getLast? with
    | some _, some _ => _
    | _, _ => _) = _
  rw [List.head?_eq_some_head hne, List.getLast?_eq_some_getLast hne]
  rfl

theorem of_nil : of [] = {} := by
  simp [of]

/-- The order of the values does not matter. -/
theorem of_eq_of_perm {values values' : List UInt64} (h : values'.Perm values) :
    of values' = of values := by
  have hsorted : (values'.mergeSort fun a b => a ≤ b) = values.mergeSort fun a b => a ≤ b :=
    ordered_eq_of_perm h
  rw [of, of, hsorted]

/-- **Nothing overflows** on the way to a distribution, and every look-up finds a value. -/
theorem Fits.of?_eq_some {values : List UInt64} (h : Fits values) :
    of? values = some (of values) := by
  by_cases hnil : values = []
  · simp [hnil, of_nil, of?, ordered]
  · have hne := ordered_ne_nil hnil
    rw [of_eq hne, of?, List.head?_eq_some_head hne, List.getLast?_eq_some_getLast hne]
    simp only [h.sorted.medianOf?_eq_some hne, h.sorted.total?_eq_some, h.sorted.count?_eq_some,
      (h.sorted.ratio hne).ratio?_eq_some, Option.bind_eq_bind, Option.bind_some]
    rfl

section Extremes

variable {values : List UInt64} (hne : values ≠ [])
include hne

theorem min_of_mem : (of values).min ∈ values := by
  rw [of_eq (ordered_ne_nil hne)]
  exact (ordered_perm values).mem_iff.1 (List.head_mem _)

theorem max_of_mem : (of values).max ∈ values := by
  rw [of_eq (ordered_ne_nil hne)]
  exact (ordered_perm values).mem_iff.1 (List.getLast_mem _)

theorem min_of_le {v : UInt64} (hv : v ∈ values) : (of values).min ≤ v := by
  obtain ⟨i, hi, rfl⟩ := List.getElem_of_mem ((ordered_perm values).mem_iff.2 hv)
  rw [of_eq (ordered_ne_nil hne), List.head_eq_getElem]
  exact getElem_ordered_le (Nat.zero_le i) hi

theorem le_max_of {v : UInt64} (hv : v ∈ values) : v ≤ (of values).max := by
  obtain ⟨i, hi, rfl⟩ := List.getElem_of_mem ((ordered_perm values).mem_iff.2 hv)
  rw [of_eq (ordered_ne_nil hne), List.getLast_eq_getElem]
  exact getElem_ordered_le (Nat.le_sub_one_of_lt hi) _

end Extremes

theorem ratio_zero (d : UInt64) : Hundredths.ratio 0 d = ⟨0⟩ := by
  rw [Hundredths.ratio]
  split
  · rfl
  · simp

theorem total_eq_zero {values : List UInt64} (h : ∀ v ∈ values, v = 0) : total id values = 0 := by
  induction values with
  | nil => rfl
  | cons v values ih =>
    rw [total_cons, h v List.mem_cons_self, ih fun w hw => h w (List.mem_cons_of_mem v hw)]
    rfl

theorem medianOf_eq_zero {values : List UInt64} (h : ∀ v ∈ values, v = 0) :
    medianOf values = ⟨0⟩ := by
  have hgetD (i : Nat) : values.getD i 0 = 0 := by
    by_cases hi : i < values.length
    · rw [List.getD_eq_getElem _ _ hi]
      exact h _ (List.getElem_mem hi)
    · exact List.getD_eq_default _ _ (Nat.le_of_not_lt hi)
  simp only [medianOf, hgetD, Hundredths.whole]
  split <;> rfl

/-- **A distribution is all zero** exactly if there is no value but zero. -/
theorem of_eq_zero_iff (values : List UInt64) : of values = {} ↔ ∀ v ∈ values, v = 0 := by
  constructor
  · intro hzero v hv
    have hle := le_max_of (List.ne_nil_of_mem hv) hv
    rw [hzero] at hle
    exact UInt64.le_zero_iff.1 hle
  · intro hzero
    by_cases hnil : values = []
    · rw [hnil, of_nil]
    · have hsorted : ∀ v ∈ ordered values, v = 0 := fun v hv =>
        hzero v ((ordered_perm values).mem_iff.1 hv)
      rw [of_eq (ordered_ne_nil hnil), hsorted _ (List.head_mem _), hsorted _ (List.getLast_mem _),
        total_eq_zero hsorted, ratio_zero, medianOf_eq_zero hsorted]

/-! ### What the summary says -/

/-- **What a distribution says of its values.** -/
structure Summarizes (values : List UInt64) (d : Distribution) : Prop where
  min_mem : d.min ∈ values
  min_le : ∀ v ∈ values, d.min ≤ v
  max_mem : d.max ∈ values
  le_max : ∀ v ∈ values, v ≤ d.max
  /-- The median of an odd number of values is the one in the middle. -/
  median_of_odd : values.length % 2 = 1 →
    ∃ m, (∀ x, HasRank values (values.length / 2) x ↔ x = m) ∧
      d.median.count.toNat = 100 * m.toNat
  /-- The median of an even number of values is half the sum of the two in the middle. -/
  median_of_even : values.length % 2 = 0 →
    ∃ a b, (∀ x, HasRank values (values.length / 2 - 1) x ↔ x = a) ∧
      (∀ x, HasRank values (values.length / 2) x ↔ x = b) ∧
      d.median.count.toNat = 50 * (a.toNat + b.toNat)
  mean : RoundsTo (100 * sumOf values) values.length d.mean.count.toNat
  min_le_median : 100 * d.min.toNat ≤ d.median.count.toNat
  median_le_max : d.median.count.toNat ≤ 100 * d.max.toNat
  min_le_mean : 100 * d.min.toNat ≤ d.mean.count.toNat
  mean_le_max : d.mean.count.toNat ≤ 100 * d.max.toNat

namespace Fits

variable {values : List UInt64} (h : Fits values) (hne : values ≠ [])
include h hne

theorem median_of_odd (hodd : values.length % 2 = 1) :
    ∃ m, (∀ x, HasRank values (values.length / 2) x ↔ x = m) ∧
      (of values).median.count.toNat = 100 * m.toNat := by
  have hlength := length_ordered values
  have hmiddle : values.length / 2 < (ordered values).length := by omega
  refine ⟨_, hasRank_iff hmiddle, ?_⟩
  rw [of_eq (ordered_ne_nil hne), h.sorted.toNat_medianOf_of_odd (by omega) hmiddle]

theorem median_of_even (heven : values.length % 2 = 0) :
    ∃ a b, (∀ x, HasRank values (values.length / 2 - 1) x ↔ x = a) ∧
      (∀ x, HasRank values (values.length / 2) x ↔ x = b) ∧
      (of values).median.count.toNat = 50 * (a.toNat + b.toNat) := by
  have hlength := length_ordered values
  have hpos := List.length_pos_iff.2 hne
  obtain ⟨below, hbelow⟩ : ∃ below, values.length = 2 * (below + 1) :=
    ⟨values.length / 2 - 1, by omega⟩
  have hhalf : values.length / 2 = below + 1 := by omega
  have hlt : below + 1 < (ordered values).length := by omega
  rw [hhalf, Nat.add_sub_cancel]
  refine ⟨_, _, hasRank_iff (Nat.lt_of_succ_lt hlt), hasRank_iff hlt, ?_⟩
  rw [of_eq (ordered_ne_nil hne),
    h.sorted.toNat_medianOf_of_even (hlength.trans hbelow) (Nat.lt_of_succ_lt hlt) hlt]

theorem roundsTo_mean_of :
    RoundsTo (100 * sumOf values) values.length (of values).mean.count.toNat := by
  have hround := h.sorted.roundsTo_mean (ordered_ne_nil hne)
  rw [sumOf_eq_of_perm (ordered_perm values), length_ordered] at hround
  rw [of_eq (ordered_ne_nil hne), length_ordered]
  exact hround

theorem min_le_mean : 100 * (of values).min.toNat ≤ (of values).mean.count.toNat := by
  have hpos := List.length_pos_iff.2 hne
  have hsum := length_mul_le_sumOf fun v hv => min_of_le hne (v := v) hv
  refine RoundsTo.le_of_cross_le hpos hpos (RoundsTo.mul_self hpos _) (h.roundsTo_mean_of hne) ?_
  refine Nat.mul_le_mul_right _ ?_
  rw [Nat.mul_assoc, Nat.mul_comm (of values).min.toNat]
  exact Nat.mul_le_mul_left 100 hsum

theorem mean_le_max : (of values).mean.count.toNat ≤ 100 * (of values).max.toNat := by
  have hpos := List.length_pos_iff.2 hne
  have hsum := sumOf_le_length_mul fun v hv => le_max_of hne (v := v) hv
  refine RoundsTo.le_of_cross_le hpos hpos (h.roundsTo_mean_of hne) (RoundsTo.mul_self hpos _) ?_
  refine Nat.mul_le_mul_right _ ?_
  rw [Nat.mul_assoc, Nat.mul_comm (of values).max.toNat]
  exact Nat.mul_le_mul_left 100 hsum

/-- The median is between the least and the greatest value, as the values in the middle are. -/
theorem median_between : 100 * (of values).min.toNat ≤ (of values).median.count.toNat ∧
    (of values).median.count.toNat ≤ 100 * (of values).max.toNat := by
  have hbetween {v : UInt64} (hv : v ∈ values) :
      (of values).min.toNat ≤ v.toNat ∧ v.toNat ≤ (of values).max.toNat :=
    ⟨UInt64.le_iff_toNat_le.1 (min_of_le hne hv), UInt64.le_iff_toNat_le.1 (le_max_of hne hv)⟩
  rcases Nat.mod_two_eq_zero_or_one values.length with heven | hodd
  · obtain ⟨a, b, ha, hb, hmedian⟩ := h.median_of_even hne heven
    have ha := hbetween ((ha a).2 rfl).mem
    have hb := hbetween ((hb b).2 rfl).mem
    omega
  · obtain ⟨m, hm, hmedian⟩ := h.median_of_odd hne hodd
    have hm := hbetween ((hm m).2 rfl).mem
    omega

theorem summarizes : Summarizes values (of values) where
  min_mem := min_of_mem hne
  min_le _ hv := min_of_le hne hv
  max_mem := max_of_mem hne
  le_max _ hv := le_max_of hne hv
  median_of_odd := h.median_of_odd hne
  median_of_even := h.median_of_even hne
  mean := h.roundsTo_mean_of hne
  min_le_median := (h.median_between hne).1
  median_le_max := (h.median_between hne).2
  min_le_mean := h.min_le_mean hne
  mean_le_max := h.mean_le_max hne

end Fits

/-- **Distributions summarize their values.** They do not depend on the order of the values, and are
all zero exactly if no value is another number than zero. Where words have room, no look-up, product
or sum fails; if there is a value at all, the distribution has the least and the greatest value, the
exact median, and the mean rounded half to even, the last two between the first two. -/
theorem of_summarizes (values : List UInt64) :
    (∀ values', values'.Perm values → of values' = of values) ∧
      (of values = {} ↔ ∀ v ∈ values, v = 0) ∧
      (Fits values → of? values = some (of values) ∧
        (values ≠ [] → Summarizes values (of values))) := by
  refine ⟨fun values' => of_eq_of_perm, of_eq_zero_iff values, fun h => ?_⟩
  exact ⟨h.of?_eq_some, h.summarizes⟩

theorem of_summarizes_even : Fits [2, 0, 1, 2] ∧ of [2, 0, 1, 2] = ⟨0, 2, ⟨125⟩, ⟨150⟩⟩ ∧
    Summarizes [2, 0, 1, 2] (of [2, 0, 1, 2]) := by
  have h : Fits [2, 0, 1, 2] := ⟨by decide, by decide⟩
  have hperm : [2, 0, 1, 2].Perm [0, 1, 2, (2 : UInt64)] := by decide
  have hordered : ordered [0, 1, 2, 2] = [0, 1, 2, 2] := List.mergeSort_of_pairwise (by decide)
  have hof : of [2, 0, 1, 2] = ⟨0, 2, ⟨125⟩, ⟨150⟩⟩ := by
    rw [of_eq_of_perm hperm, of_eq (by simp [hordered])]
    simp only [hordered]
    rfl
  exact ⟨h, hof, ((of_summarizes [2, 0, 1, 2]).2.2 h).2 (by decide)⟩

end Distribution

end CodeMetrics
