/-!
# Spans of source text

A span is a byte range together with the lines, counted from one, that it covers.
-/

namespace CodeMetrics

/-- A byte range and the lines it covers, counted from one. -/
structure Span where
  start : Nat := 0
  stop : Nat := 0
  startLine : Nat := 0
  endLine : Nat := 0
  deriving DecidableEq, Inhabited

namespace Span

/-- The number of lines from the first to the last; one when they are out of order. -/
def lineCount (s : Span) : Nat := s.endLine - s.startLine + 1

/-- Whether the bytes of `t` lie within those of `s`. -/
def contains (s t : Span) : Bool := s.start ≤ t.start && t.stop ≤ s.stop

/-- The four fields in their order of comparison. -/
def key (s : Span) : List Nat := [s.start, s.stop, s.startLine, s.endLine]

/-- Spans are ordered field by field. -/
def order (s t : Span) : Ordering := compare s.key t.key

end Span

end CodeMetrics
