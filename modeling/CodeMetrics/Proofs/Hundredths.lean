import CodeMetrics.Hundredths
import Mathlib.Algebra.Group.Nat.Even
import Mathlib.Algebra.Order.Group.Unbundled.Int
import Mathlib.Tactic.Linarith
import Mathlib.Tactic.Ring

/-!
# Rounding to hundredths

`Hundredths.ratio` divides words: it takes the quotient, doubles the remainder and compares it with
the denominator. What comes out is said by `RoundsTo`, which knows nothing of quotients: a multiple
of the denominator that is nearest to the numerator, and an even one of the two if there are two.

Everything about rounding rests on one comparison (`RoundsTo.le_of_cross_le`): of two ratios the
smaller one is not rounded to the greater number. Where the two are equal this gives that the
rounded number is the only one, and that a factor on both sides does not matter.

The words are as good as numbers as long as nothing overflows. `Hundredths.ratio?` is the same
division with every product and sum checked; it has a result whenever the scaled numerator fits in a
word and the denominator in all but the highest bit of one (`Hundredths.ratio?_eq_some`).
-/

namespace CodeMetrics

/-! ### Checked words -/

namespace Checked

/-- The product of two words, if it fits in a word. -/
def mul? (a b : UInt64) : Option UInt64 := if a.toNat * b.toNat < 2 ^ 64 then some (a * b) else none

/-- The sum of two words, if it fits in a word. -/
def add? (a b : UInt64) : Option UInt64 := if a.toNat + b.toNat < 2 ^ 64 then some (a + b) else none

theorem toNat_mul_of_lt {a b : UInt64} (h : a.toNat * b.toNat < 2 ^ 64) :
    (a * b).toNat = a.toNat * b.toNat := by
  rw [UInt64.toNat_mul, Nat.mod_eq_of_lt h]

theorem toNat_add_of_lt {a b : UInt64} (h : a.toNat + b.toNat < 2 ^ 64) :
    (a + b).toNat = a.toNat + b.toNat := by
  rw [UInt64.toNat_add, Nat.mod_eq_of_lt h]

end Checked

/-! ### Rounded ratios -/

/-- **The number that a ratio `a / d` is rounded to**: no number is nearer to it, and if another one
is as near, it is even. Both are said without division, by the distance of `a` to a multiple of
`d`. -/
structure RoundsTo (a d q : Nat) : Prop where
  near : 2 * |(a : ℤ) - q * d| ≤ d
  even_of_tie : 2 * |(a : ℤ) - q * d| = d → Even q

namespace RoundsTo

variable {a b d e q r : Nat}

theorem lower (h : RoundsTo a d q) : (2 * q - 1 : ℤ) * d ≤ 2 * a := by
  have hnear := h.near
  have habs := neg_le_abs ((a : ℤ) - q * d)
  linarith

theorem upper (h : RoundsTo a d q) : (2 * a : ℤ) ≤ (2 * q + 1) * d := by
  have hnear := h.near
  have habs := le_abs_self ((a : ℤ) - q * d)
  linarith

/-- A ratio half-way down from the number it is rounded to. -/
theorem even_of_lower (h : RoundsTo a d q) (heq : (2 * q - 1 : ℤ) * d = 2 * a) : Even q := by
  refine h.even_of_tie (le_antisymm h.near ?_)
  have habs := neg_le_abs ((a : ℤ) - q * d)
  linarith

/-- A ratio half-way up from the number it is rounded to. -/
theorem even_of_upper (h : RoundsTo a d q) (heq : (2 * a : ℤ) = (2 * q + 1) * d) : Even q := by
  refine h.even_of_tie (le_antisymm h.near ?_)
  have habs := le_abs_self ((a : ℤ) - q * d)
  linarith

/-- **Of two ratios the smaller one is not rounded to the greater number.** -/
theorem le_of_cross_le (hd : 0 < d) (he : 0 < e) (h : RoundsTo a d q) (h' : RoundsTo b e r)
    (hle : a * e ≤ b * d) : q ≤ r := by
  by_contra hlt
  have hd' : (0 : ℤ) < d := by exact_mod_cast hd
  have he' : (0 : ℤ) < e := by exact_mod_cast he
  have hqr : (2 * r + 1 : ℤ) ≤ 2 * q - 1 := by omega
  -- the greater number is at least half a step above, so both ratios lie half-way between the two
  have h₁ : (2 * q - 1 : ℤ) * d * e ≤ 2 * a * e := mul_le_mul_of_nonneg_right h.lower he'.le
  have h₂ : (2 * a * e : ℤ) ≤ 2 * b * d := by
    have : (a * e : ℤ) ≤ b * d := by exact_mod_cast hle
    linarith
  have h₃ : (2 * b * d : ℤ) ≤ (2 * r + 1) * e * d := mul_le_mul_of_nonneg_right h'.upper hd'.le
  have h₄ : (2 * r + 1 : ℤ) * (d * e) ≤ (2 * q - 1) * (d * e) :=
    mul_le_mul_of_nonneg_right hqr (mul_pos hd' he').le
  have hq : Even q := by
    refine h.even_of_lower (mul_right_cancel₀ he'.ne' ?_)
    linarith
  have hr : Even r := by
    refine h'.even_of_upper (mul_right_cancel₀ hd'.ne' ?_)
    linarith
  have hstep : (2 * q - 1 : ℤ) = 2 * r + 1 := by
    refine mul_right_cancel₀ (mul_pos hd' he').ne' ?_
    linarith
  obtain ⟨i, rfl⟩ := hq
  obtain ⟨j, rfl⟩ := hr
  omega

/-- **A ratio is rounded to one number only.** -/
theorem unique (hd : 0 < d) (h : RoundsTo a d q) (h' : RoundsTo a d r) : q = r :=
  le_antisymm (le_of_cross_le hd hd h h' le_rfl) (le_of_cross_le hd hd h' h le_rfl)

/-- A number is rounded to itself. -/
theorem mul_self (hd : 0 < d) (q : Nat) : RoundsTo (q * d) d q := by
  have hzero : ((q * d : Nat) : ℤ) - q * d = 0 := by
    rw [Nat.cast_mul, sub_self]
  constructor
  · rw [hzero, abs_zero, mul_zero]
    exact Int.natCast_nonneg d
  · intro htie
    rw [hzero, abs_zero, mul_zero] at htie
    omega

/-- **The quotient or the number after it**: the remainder and the parity of the quotient decide. -/
theorem of_remainder (hd : 0 < d) :
    RoundsTo a d (if d < 2 * (a % d) ∨ 2 * (a % d) = d ∧ a / d % 2 = 1 then a / d + 1
      else a / d) := by
  have hmod : a % d < d := Nat.mod_lt a hd
  have ha : (a : ℤ) = (a / d : Nat) * d + (a % d : Nat) := by
    exact_mod_cast (Nat.div_add_mod' a d).symm
  generalize a / d = quotient at ha ⊢
  generalize a % d = remainder at hmod ha ⊢
  split
  · have hdistance : |(a : ℤ) - (quotient + 1 : Nat) * d| = d - remainder := by
      have hbelow : (a : ℤ) - (quotient + 1 : Nat) * d = -(d - remainder) := by
        rw [ha]
        push_cast
        ring
      rw [hbelow, abs_neg, abs_of_nonneg (by omega)]
    constructor
    · rw [hdistance]
      omega
    · rw [hdistance, Nat.even_iff]
      omega
  · have hdistance : |(a : ℤ) - quotient * d| = remainder := by
      rw [ha, add_sub_cancel_left, abs_of_nonneg (Int.natCast_nonneg remainder)]
    constructor
    · rw [hdistance]
      omega
    · rw [hdistance, Nat.even_iff]
      omega

end RoundsTo

/-! ### Ratios of words -/

namespace Hundredths

open Checked

/-- The ratio rounded to hundredths, with every product and sum checked. -/
def ratio? (numerator denominator : UInt64) : Option Hundredths :=
  if denominator = 0 then some ⟨0⟩
  else do
    let scaled ← mul? numerator 100
    let quotient := scaled / denominator
    let twiceRemainder ← mul? (scaled % denominator) 2
    let roundUp := twiceRemainder > denominator ||
      (twiceRemainder == denominator && quotient % 2 == 1)
    let count ← add? quotient (if roundUp then 1 else 0)
    return ⟨count⟩

/-- Whether the quotient is rounded up. -/
def roundsUp (numerator denominator : UInt64) : Bool :=
  numerator * 100 % denominator * 2 > denominator ||
    (numerator * 100 % denominator * 2 == denominator && numerator * 100 / denominator % 2 == 1)

theorem ratio_eq {n d : UInt64} (hd : d ≠ 0) :
    ratio n d = ⟨n * 100 / d + if roundsUp n d then 1 else 0⟩ := by
  rw [ratio, if_neg hd]
  change (⟨if roundsUp n d then n * 100 / d + 1 else n * 100 / d⟩ : Hundredths) = _
  split
  · rfl
  · rw [UInt64.add_zero]

/-- **The ratios that words have room for**: the numerator can be scaled to hundredths, and every
number below the denominator can be doubled. -/
structure Fits (n d : UInt64) : Prop where
  pos : 0 < d
  scaled_lt : 100 * n.toNat < 2 ^ 64
  denominator_le : d.toNat ≤ 2 ^ 63

namespace Fits

variable {n d m e : UInt64} (h : Fits n d)
include h

theorem toNat_pos : 0 < d.toNat := UInt64.lt_iff_toNat_lt.1 h.pos

theorem ne_zero : d ≠ 0 := (UInt64.ne_of_lt h.pos).symm

theorem numerator_mul_lt : n.toNat * (100 : UInt64).toNat < 2 ^ 64 := by
  have h100 : (100 : UInt64).toNat = 100 := rfl
  rw [h100, Nat.mul_comm]
  exact h.scaled_lt

theorem toNat_scaled : (n * 100).toNat = 100 * n.toNat := by
  rw [toNat_mul_of_lt h.numerator_mul_lt, Nat.mul_comm]
  rfl

theorem toNat_quotient : (n * 100 / d).toNat = 100 * n.toNat / d.toNat := by
  rw [UInt64.toNat_div, h.toNat_scaled]

theorem remainder_mul_lt : (n * 100 % d).toNat * (2 : UInt64).toNat < 2 ^ 64 := by
  have h2 : (2 : UInt64).toNat = 2 := rfl
  have hmod : 100 * n.toNat % d.toNat < d.toNat := Nat.mod_lt _ h.toNat_pos
  have hle := h.denominator_le
  rw [UInt64.toNat_mod, h.toNat_scaled, h2]
  omega

theorem toNat_twiceRemainder : (n * 100 % d * 2).toNat = 2 * (100 * n.toNat % d.toNat) := by
  rw [toNat_mul_of_lt h.remainder_mul_lt, UInt64.toNat_mod, h.toNat_scaled, Nat.mul_comm]
  rfl

theorem roundsUp_iff : roundsUp n d = true ↔
    d.toNat < 2 * (100 * n.toNat % d.toNat) ∨
      2 * (100 * n.toNat % d.toNat) = d.toNat ∧ 100 * n.toNat / d.toNat % 2 = 1 := by
  have h2 : (2 : UInt64).toNat = 2 := rfl
  have h1 : (1 : UInt64).toNat = 1 := rfl
  simp only [roundsUp, Bool.or_eq_true, Bool.and_eq_true, decide_eq_true_eq, beq_iff_eq, gt_iff_lt,
    UInt64.lt_iff_toNat_lt, ← UInt64.toNat_inj, UInt64.toNat_mod, h1, h2, h.toNat_twiceRemainder,
    h.toNat_quotient]

/-- The number after the quotient is a word: a quotient by one has no remainder and is not rounded
up. -/
theorem quotient_add_lt :
    (n * 100 / d).toNat + (if roundsUp n d then 1 else 0 : UInt64).toNat < 2 ^ 64 := by
  have hscaled := h.scaled_lt
  rw [h.toNat_quotient]
  split
  · next hup =>
    have hge : 2 ≤ d.toNat := by
      by_contra hlt
      have hpos := h.toNat_pos
      obtain hone : d.toNat = 1 := by omega
      rw [h.roundsUp_iff, hone] at hup
      omega
    have hle : 100 * n.toNat / d.toNat ≤ 100 * n.toNat / 2 := Nat.div_le_div_left hge (by omega)
    have h1 : (1 : UInt64).toNat = 1 := rfl
    omega
  · have hle : 100 * n.toNat / d.toNat ≤ 100 * n.toNat := Nat.div_le_self _ _
    have h0 : (0 : UInt64).toNat = 0 := rfl
    omega

/-- **Nothing overflows** on the way to a rounded ratio. -/
theorem ratio?_eq_some : ratio? n d = some (ratio n d) := by
  have hscaled : mul? n 100 = some (n * 100) := if_pos h.numerator_mul_lt
  have htwice : mul? (n * 100 % d) 2 = some (n * 100 % d * 2) := if_pos h.remainder_mul_lt
  have hcount : add? (n * 100 / d) (if roundsUp n d then 1 else 0) =
      some (n * 100 / d + if roundsUp n d then 1 else 0) := if_pos h.quotient_add_lt
  rw [ratio?, if_neg h.ne_zero, ratio_eq h.ne_zero, hscaled]
  simp only [Option.bind_eq_bind, Option.bind_some, htwice]
  rw [← roundsUp, hcount]
  rfl

/-- **The ratio of two words is rounded** as the ratio of the numbers is. -/
theorem roundsTo_ratio : RoundsTo (100 * n.toNat) d.toNat (ratio n d).count.toNat := by
  have hround := RoundsTo.of_remainder (a := 100 * n.toNat) h.toNat_pos
  rw [ratio_eq h.ne_zero, toNat_add_of_lt h.quotient_add_lt, h.toNat_quotient]
  split at hround
  · next hup =>
    rw [if_pos (h.roundsUp_iff.2 hup)]
    exact hround
  · next hdown =>
    rw [if_neg (mt h.roundsUp_iff.1 hdown)]
    exact hround

/-- **Ratios are compared by their numbers**, before and after they are rounded. -/
theorem count_le_count (h' : Fits m e) (hle : n.toNat * e.toNat ≤ m.toNat * d.toNat) :
    (ratio n d).count ≤ (ratio m e).count := by
  rw [UInt64.le_iff_toNat_le]
  refine RoundsTo.le_of_cross_le h.toNat_pos h'.toNat_pos h.roundsTo_ratio h'.roundsTo_ratio ?_
  rw [Nat.mul_assoc, Nat.mul_assoc]
  exact Nat.mul_le_mul_left 100 hle

theorem ratio_mul_mul {k : UInt64} (hk : 0 < k) (hn : 100 * (k.toNat * n.toNat) < 2 ^ 64)
    (hd : k.toNat * d.toNat ≤ 2 ^ 63) : ratio (k * n) (k * d) = ratio n d := by
  have hnumerator : (k * n).toNat = k.toNat * n.toNat := toNat_mul_of_lt (by omega)
  have hdenominator : (k * d).toNat = k.toNat * d.toNat := toNat_mul_of_lt (by omega)
  have hfits : Fits (k * n) (k * d) := by
    refine ⟨UInt64.lt_iff_toNat_lt.2 ?_, hnumerator ▸ hn, hdenominator ▸ hd⟩
    rw [hdenominator]
    exact Nat.mul_pos (UInt64.lt_iff_toNat_lt.1 hk) h.toNat_pos
  have heq : n.toNat * (k * d).toNat = (k * n).toNat * d.toNat := by
    rw [hnumerator, hdenominator]
    ring
  have hcount : (ratio (k * n) (k * d)).count = (ratio n d).count :=
    UInt64.le_antisymm (hfits.count_le_count h heq.ge) (h.count_le_count hfits heq.le)
  exact congrArg Hundredths.mk hcount

end Fits

/-- **Ratios are rounded half to even.** Where the words have room, no product and no sum overflows;
the result is the one number of hundredths that is nearest to the ratio, an even one if the ratio is
half-way between two; it grows with the numerator and falls with the denominator, and a factor of
both does not change it. -/
theorem ratio_half_even {n d : UInt64} (h : Fits n d) :
    ratio? n d = some (ratio n d) ∧
      (∀ q, RoundsTo (100 * n.toNat) d.toNat q ↔ q = (ratio n d).count.toNat) ∧
      (∀ m, Fits m d → n ≤ m → (ratio n d).count ≤ (ratio m d).count) ∧
      (∀ e, Fits n e → d ≤ e → (ratio n e).count ≤ (ratio n d).count) ∧
      ∀ k : UInt64, 0 < k → 100 * (k.toNat * n.toNat) < 2 ^ 64 → k.toNat * d.toNat ≤ 2 ^ 63 →
        ratio (k * n) (k * d) = ratio n d := by
  refine ⟨h.ratio?_eq_some, fun q => ⟨?_, ?_⟩, ?_, ?_, ?_⟩
  · intro hq
    exact hq.unique h.toNat_pos h.roundsTo_ratio
  · rintro rfl
    exact h.roundsTo_ratio
  · intro m hm hle
    exact h.count_le_count hm (Nat.mul_le_mul_right _ (UInt64.le_iff_toNat_le.1 hle))
  · intro e he hle
    exact he.count_le_count h (Nat.mul_le_mul_left _ (UInt64.le_iff_toNat_le.1 hle))
  · intro k hk hn hd
    exact h.ratio_mul_mul hk hn hd

/-- Three halves of a hundredth are half-way between one and two hundredths. -/
theorem ratio_half_even_tie : Fits 3 200 ∧ RoundsTo 300 200 2 ∧ ratio 3 200 = ⟨2⟩ ∧
    ratio (7 * 3) (7 * 200) = ratio 3 200 := by
  have h : Fits 3 200 := ⟨by decide, by decide, by decide⟩
  obtain ⟨-, hround, -, -, hscale⟩ := ratio_half_even h
  exact ⟨h, (hround 2).2 (by decide), by decide, hscale 7 (by decide) (by decide) (by decide)⟩

end Hundredths

end CodeMetrics
