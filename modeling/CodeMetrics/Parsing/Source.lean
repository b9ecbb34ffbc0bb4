/-!
# Source text

A text as an array of characters, with the byte offset and the row of each place in it. A place is
the number of characters before it.
-/

namespace CodeMetrics.Parsing

/-- A text with the byte offsets and rows of its places, the end included. -/
structure Source where
  chars : Array Char
  offsets : Array Nat
  rows : Array Nat
  /-- The byte offset of the first column of each row. -/
  lineStarts : Array Nat

namespace Source

/-- The places of a text. -/
def ofString (s : String) : Source :=
  let chars := s.toList.toArray
  let (offsets, rows, starts, _, _) := chars.foldl
    (fun (acc : Array Nat × Array Nat × Array Nat × Nat × Nat) c =>
      let (offsets, rows, starts, offset, row) := acc
      let offset := offset + c.utf8Size
      if c == '\n' then
        (offsets.push offset, rows.push (row + 1), starts.push offset, offset, row + 1)
      else (offsets.push offset, rows.push row, starts, offset, row))
    (#[0], #[0], #[0], 0, 0)
  { chars, offsets, rows, lineStarts := starts }

/-- The end of the text. -/
def size (s : Source) : Nat := s.chars.size

/-- The byte offset of a place. -/
def offset (s : Source) (place : Nat) : Nat := s.offsets.getD place 0

/-- The row of a place, counted from zero. -/
def row (s : Source) (place : Nat) : Nat := s.rows.getD place 0

/-- The column of a place in bytes, counted from zero. -/
def column (s : Source) (place : Nat) : Nat := s.offset place - s.lineStarts.getD (s.row place) 0

/-- The characters between two places. -/
def slice (s : Source) (start stop : Nat) : String :=
  String.ofList (s.chars.extract start stop).toList

end Source

end CodeMetrics.Parsing
