import CodeMetrics.Hundredths
import CodeMetrics.Total

/-!
# Distributions

The least, the greatest, the mean and the median of a measure over the units of a file.
-/

namespace CodeMetrics

/-- A summary of a list of numbers. -/
structure Distribution where
  min : UInt64 := 0
  max : UInt64 := 0
  mean : Hundredths := {}
  median : Hundredths := {}
  deriving DecidableEq, Inhabited

namespace Distribution

/-- The middle of a sorted list: its middle element, or half the sum of the two in the middle. -/
def medianOf (sorted : List UInt64) : Hundredths :=
  let middle := sorted.length / 2
  if sorted.length % 2 = 1 then .whole (sorted.getD middle 0)
  else ⟨(sorted.getD (middle - 1) 0 + sorted.getD middle 0) * 50⟩

/-- **The distribution of a list of numbers**; all zero for the empty list. -/
def of (values : List UInt64) : Distribution :=
  let sorted := values.mergeSort fun a b => a ≤ b
  match sorted.head?, sorted.getLast? with
  | some least, some greatest =>
    { min := least
      max := greatest
      mean := .ratio (total id sorted) (UInt64.ofNat sorted.length)
      median := medianOf sorted }
  | _, _ => {}

/-- The values of the four fields, each named after what the distribution is of. -/
def fields (of : String) (d : Distribution) : List (String × String) :=
  [(of ++ ".min", toString d.min.toNat), (of ++ ".max", toString d.max.toNat),
    (of ++ ".mean", d.mean.display), (of ++ ".median", d.median.display)]

end Distribution

end CodeMetrics
