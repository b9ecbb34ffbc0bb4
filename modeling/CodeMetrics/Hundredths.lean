/-!
# Hundredths

A quantity with two decimals, kept as an exact number of hundredths in a 64-bit word: 125 is 1.25.

* `Hundredths.whole` – a whole number;
* `Hundredths.ratio` – a quotient, rounded to the nearest hundredth, a half to the even neighbour.
-/

namespace CodeMetrics

/-- A number of hundredths. -/
structure Hundredths where
  count : UInt64 := 0
  deriving DecidableEq, Inhabited

namespace Hundredths

/-- A whole number. -/
def whole (n : UInt64) : Hundredths := ⟨n * 100⟩

/-- **A quotient rounded to hundredths**, a half to the even neighbour. A quotient by zero is
zero. -/
def ratio (numerator denominator : UInt64) : Hundredths :=
  if denominator = 0 then ⟨0⟩
  else
    let scaled := numerator * 100
    let quotient := scaled / denominator
    let twiceRemainder := scaled % denominator * 2
    let roundUp := twiceRemainder > denominator ||
      (twiceRemainder == denominator && quotient % 2 == 1)
    ⟨if roundUp then quotient + 1 else quotient⟩

/-- Two decimal digits. -/
def twoDigits (n : Nat) : String := if n < 10 then "0" ++ toString n else toString n

/-- The decimal text: the whole part, a point, and two places. -/
def display (h : Hundredths) : String :=
  toString (h.count.toNat / 100) ++ "." ++ twoDigits (h.count.toNat % 100)

end Hundredths

end CodeMetrics
