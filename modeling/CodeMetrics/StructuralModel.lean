import CodeMetrics.CallChain
import CodeMetrics.Document
import CodeMetrics.StructuralUnit.Collect

/-!
# Structural models

What is kept of a document for the metrics: its units, its numbers of lines and its call chains.
-/

namespace CodeMetrics

/-- Numbers of lines of a file. -/
structure LineStats where
  totalLines : Nat := 0
  realLines : Nat := 0
  commentLines : Nat := 0
  deriving DecidableEq, Inhabited

/-- The structural model of a file. -/
structure StructuralModel where
  language : Language
  /-- The units, by where they begin. -/
  units : List StructuralUnit
  lines : LineStats
  /-- The number of calls of each call chain, in source order. -/
  callChains : List Nat

/-- The numbers of lines of an index. -/
def LineIndex.stats (l : LineIndex) : LineStats where
  totalLines := l.totalLines
  realLines := l.realLines
  commentLines := l.commentCount

namespace StructuralModel

/-- Units sorted by where they begin; those that begin at the same byte keep their order. -/
def sortUnits (units : List StructuralUnit) : List StructuralUnit :=
  units.mergeSort fun u v => u.span.start ≤ v.span.start

/-- **The model of a document.** -/
def ofDocument (d : Document) : Except NormalizationError StructuralModel := do
  let units ← StructuralUnit.collect d.lines d.root
  return {
    language := d.language
    units := sortUnits units
    lines := d.lines.stats
    callChains := CallChain.callChains d.root }

end StructuralModel

end CodeMetrics
