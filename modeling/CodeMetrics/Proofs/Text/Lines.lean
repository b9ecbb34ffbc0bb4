import CodeMetrics.LineIndex
import CodeMetrics.SyntaxTree
import CodeMetrics.Total
import Mathlib.Data.List.Basic

/-!
# Characters on lines

Where the characters of a text stand: `Text.glyphs` lists them with the offset of their first byte
and their line, counted from one. A line break stands at the end of its own line, so every line of a
text has a character, and the lines of a text are those that have one (`Text.exists_line_iff`).

A piece of a text is known by what stands before it and by itself. It covers the lines from that of
its first to that of its last character, without a gap (`Text.exists_glyph_on_iff`).
-/

namespace CodeMetrics

namespace Text

/-- The number of bytes of a text. -/
def byteLength (cs : List Char) : Nat := total Char.utf8Size cs

/-- A character of a text, with the offset of its first byte and its line, counted from one. -/
structure Glyph where
  char : Char
  offset : Nat
  line : Nat

/-- Whether a byte of the text belongs to a character. -/
def Glyph.holds (g : Glyph) (byte : Nat) : Prop :=
  g.offset ≤ byte ∧ byte < g.offset + g.char.utf8Size

/-- **The characters of a text** that begins at an offset and on a line. -/
def glyphs : Nat → Nat → List Char → List Glyph
  | _, _, [] => []
  | offset, line, c :: cs =>
    ⟨c, offset, line⟩ :: glyphs (offset + c.utf8Size) (if c = '\n' then line + 1 else line) cs

/-- **The number of lines of a text.** What follows the last line break is a line unless it is
empty. -/
def lineCount (cs : List Char) : Nat :=
  cs.count '\n' + if cs.getLast?.all (· = '\n') then 0 else 1

variable {offset line : Nat}

@[simp] theorem byteLength_cons (c : Char) (cs : List Char) :
    byteLength (c :: cs) = c.utf8Size + byteLength cs := rfl

@[simp] theorem byteLength_append (cs ds : List Char) :
    byteLength (cs ++ ds) = byteLength cs + byteLength ds := total_append _ _ _

theorem glyphs_append (cs ds : List Char) :
    glyphs offset line (cs ++ ds) =
      glyphs offset line cs ++ glyphs (offset + byteLength cs) (line + cs.count '\n') ds := by
  induction cs generalizing offset line with
  | nil => rfl
  | cons c cs ih =>
    have hline : (if c = '\n' then line + 1 else line) + cs.count '\n' =
        line + (c :: cs).count '\n' := by
      rw [List.count_cons]
      by_cases hc : c = '\n'
      · simp [hc]
        omega
      · simp [hc]
    rw [List.cons_append, glyphs, glyphs, ih, hline, byteLength_cons, Nat.add_assoc,
      List.cons_append]

/-- The characters of a text have their bytes in it. -/
theorem offset_of_mem_glyphs {cs : List Char} {g : Glyph} (h : g ∈ glyphs offset line cs) :
    offset ≤ g.offset ∧ g.offset + g.char.utf8Size ≤ offset + byteLength cs := by
  induction cs generalizing offset line with
  | nil => cases h
  | cons c cs ih =>
    rw [byteLength_cons, ← Nat.add_assoc]
    rcases List.mem_cons.1 h with rfl | h
    · exact ⟨Nat.le_refl _, Nat.le_add_right _ _⟩
    · obtain ⟨hstart, hstop⟩ := ih h
      exact ⟨Nat.le_trans (Nat.le_add_right _ _) hstart, hstop⟩

theorem line_le_of_mem_glyphs {cs : List Char} {g : Glyph} (h : g ∈ glyphs offset line cs) :
    line ≤ g.line := by
  induction cs generalizing offset line with
  | nil => cases h
  | cons c cs ih =>
    rcases List.mem_cons.1 h with rfl | h
    · exact Nat.le_refl _
    · have := ih h
      split at this <;> omega

/-- **A piece of text covers the lines from its first to its last character**, without a gap. -/
theorem exists_glyph_on_iff (offset line : Nat) {cs : List Char} (hcs : cs ≠ []) (k : Nat) :
    (∃ g ∈ glyphs offset line cs, g.line = k) ↔
      line ≤ k ∧ k ≤ line + cs.dropLast.count '\n' := by
  induction cs generalizing offset line with
  | nil => exact absurd rfl hcs
  | cons c cs ih =>
    rw [glyphs, List.exists_mem_cons_iff]
    by_cases hnil : cs = []
    · subst hnil
      simp [glyphs]
      omega
    · rw [ih _ _ hnil, List.dropLast_cons_of_ne_nil hnil, List.count_cons]
      by_cases hc : c = '\n' <;> simp [hc] <;> omega

theorem lineCount_eq {cs : List Char} (hcs : cs ≠ []) :
    lineCount cs = cs.dropLast.count '\n' + 1 := by
  have hsplit := List.dropLast_append_getLast hcs
  have hcount : cs.count '\n' = cs.dropLast.count '\n' + [cs.getLast hcs].count '\n' := by
    rw [← List.count_append, hsplit]
  rw [lineCount, hcount, List.getLast?_eq_some_getLast hcs]
  by_cases hc : cs.getLast hcs = '\n' <;> simp [hc]

/-- **The lines of a text are those with a character.** -/
theorem exists_line_iff (cs : List Char) (k : Nat) :
    (∃ g ∈ glyphs 0 1 cs, g.line = k) ↔ 1 ≤ k ∧ k ≤ lineCount cs := by
  by_cases hcs : cs = []
  · subst hcs
    simp [glyphs, lineCount]
    omega
  · rw [exists_glyph_on_iff 0 1 hcs, lineCount_eq hcs, Nat.add_comm 1]

end Text

/-! ### Pieces of a text -/

/-- The position that follows some characters: columns count the bytes since the last line break. -/
def Position.after (cs : List Char) : Position where
  byte := Text.byteLength cs
  row := cs.count '\n'
  column := Text.byteLength (cs.reverse.takeWhile (· ≠ '\n'))

theorem Position.column_after_concat (cs : List Char) (c : Char) :
    (after (cs ++ [c])).column = 0 ↔ c = '\n' := by
  have := c.utf8Size_pos
  by_cases hc : c = '\n'
  · simp [after, hc, Text.byteLength]
  · simp [after, hc]
    omega

namespace SyntaxTree

/-- **Whether a node stands for a piece of a text** that is not empty. -/
def StandsIn (text : List Char) (n : SyntaxTree) : Prop :=
  ∃ before piece rest, text = before ++ piece ++ rest ∧ piece ≠ [] ∧
    n.start = .after before ∧ n.stop = .after (before ++ piece)

/-- Whether a byte of the text lies in a node. -/
def holds (n : SyntaxTree) (byte : Nat) : Prop := n.start.byte ≤ byte ∧ byte < n.stop.byte

/-- Whether a character lies in a node, with all of its bytes. -/
def covers (n : SyntaxTree) (g : Text.Glyph) : Prop := ∀ byte, g.holds byte → n.holds byte

end SyntaxTree

end CodeMetrics
