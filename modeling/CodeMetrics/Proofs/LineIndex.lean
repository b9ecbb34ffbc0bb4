import CodeMetrics.Proofs.Text.Bytes
import Mathlib.Data.List.Perm.Subperm

/-!
# The lines of a text with comments

The index of a text is made in two passes that know nothing of each other: one blanks the comments
and looks at what is left of each line, the other takes the rows from the spans of the comments.
`LineIndex.ofText_classifies` says that both mean the lines on which characters stand: a line is
code if one of its characters is neither blank nor in a comment, and it holds a comment if a comment
has a byte on it.

The first pass is followed character by character, with the line under way as the part of the text
that has been read (`LineIndex.getElem?_linesFrom`). For the second one the correction of the last
row in `Cst.spanOf` matters: a comment that takes in a line break ends on the line of the break
(`SyntaxTree.StandsIn.endLine_spanOf`).
-/

namespace CodeMetrics

open Text

namespace SyntaxTree.StandsIn

variable {text : List Char} {n : SyntaxTree}

/-- The lines of the span of a piece: from that of its first to that of its last character. -/
theorem exists_spanOf (h : n.StandsIn text) : ∃ before piece rest,
    text = before ++ piece ++ rest ∧ piece ≠ [] ∧ n.start.byte = byteLength before ∧
      n.stop.byte = byteLength (before ++ piece) ∧
      (Cst.spanOf n).startLine = 1 + before.count '\n' ∧
      (Cst.spanOf n).endLine = 1 + before.count '\n' + piece.dropLast.count '\n' := by
  obtain ⟨before, piece, rest, htext, hne, hstart, hstop⟩ := h
  refine ⟨before, piece, rest, htext, hne, by rw [hstart]; rfl, by rw [hstop]; rfl, ?_, ?_⟩
  · simp only [Cst.spanOf, hstart, Position.after]
    omega
  · -- the row after the last character is one too far if that is a line break
    obtain ⟨cs, c, rfl⟩ : ∃ cs c, piece = cs ++ [c] :=
      ⟨_, _, (List.dropLast_append_getLast hne).symm⟩
    have hcolumn := Position.column_after_concat (before ++ cs) c
    rw [List.append_assoc, ← hstop] at hcolumn
    rw [List.dropLast_concat]
    simp only [Cst.spanOf, hcolumn, hstart]
    rw [hstop]
    simp only [Position.after]
    by_cases hc : c = '\n' <;> simp [hc] <;> omega

/-- A piece has all bytes of a character or none of them. -/
theorem holds_iff (h : n.StandsIn text) {g : Glyph} (hg : g ∈ glyphs 0 1 text) {byte : Nat}
    (hbyte : g.holds byte) : n.holds byte ↔ n.holds g.offset := by
  obtain ⟨before, piece, rest, rfl, -, hstart, hstop, -, -⟩ := h.exists_spanOf
  rw [byteLength_append] at hstop
  simp only [glyphs_append, byteLength_append, List.mem_append, Nat.zero_add] at hg
  simp only [SyntaxTree.holds, Glyph.holds] at *
  rcases hg with (hg | hg) | hg <;> have := offset_of_mem_glyphs hg <;> omega

theorem covers_iff (h : n.StandsIn text) {g : Glyph} (hg : g ∈ glyphs 0 1 text) :
    n.covers g ↔ n.holds g.offset := by
  have hfirst : g.holds g.offset := ⟨Nat.le_refl _, Nat.lt_add_of_pos_right g.char.utf8Size_pos⟩
  exact ⟨fun hall => hall g.offset hfirst, fun hn byte hbyte => (h.holds_iff hg hbyte).2 hn⟩

/-- **The lines of a piece are those on which it has a byte.** -/
theorem exists_byte_iff (h : n.StandsIn text) (k : Nat) :
    (∃ byte, n.holds byte ∧ ∃ g ∈ glyphs 0 1 text, g.holds byte ∧ g.line = k) ↔
      (Cst.spanOf n).startLine ≤ k ∧ k ≤ (Cst.spanOf n).endLine := by
  obtain ⟨before, piece, rest, rfl, hne, hstart, hstop, hfirst, hlast⟩ := h.exists_spanOf
  rw [hfirst, hlast, ← exists_glyph_on_iff (byteLength before) _ hne]
  rw [byteLength_append] at hstop
  simp only [SyntaxTree.holds, Glyph.holds, hstart, hstop, glyphs_append, byteLength_append,
    List.mem_append, Nat.zero_add]
  constructor
  · rintro ⟨byte, hn, g, (hg | hg) | hg, hbyte, hline⟩
    · have := offset_of_mem_glyphs hg
      omega
    · exact ⟨g, hg, hline⟩
    · have := offset_of_mem_glyphs hg
      omega
  · rintro ⟨g, hg, hline⟩
    have hsize := g.char.utf8Size_pos
    have := offset_of_mem_glyphs hg
    exact ⟨g.offset, by omega, g, Or.inl (Or.inr hg), by omega, hline⟩

end SyntaxTree.StandsIn

namespace LineIndex

/-! ### Sets of lines -/

theorem mem_insertLine {n k : Nat} {ms : List Nat} : k ∈ insertLine n ms ↔ k = n ∨ k ∈ ms := by
  induction ms with
  | nil => simp [insertLine]
  | cons m ms ih =>
    unfold insertLine
    split
    · simp
    · split
      · next h => simp [h]
      · simp [ih, or_left_comm]

theorem pairwise_insertLine {n : Nat} {ms : List Nat} (h : ms.Pairwise (· < ·)) :
    (insertLine n ms).Pairwise (· < ·) := by
  induction h with
  | nil => exact List.pairwise_singleton _ _
  | @cons m ms hm hms ih =>
    unfold insertLine
    split
    · next hlt =>
      refine .cons (fun k hk => ?_) (.cons hm hms)
      rcases List.mem_cons.1 hk with rfl | hk
      · exact hlt
      · exact Nat.lt_trans hlt (hm k hk)
    · split
      · exact .cons hm hms
      · refine .cons (fun k hk => ?_) ih
        rcases mem_insertLine.1 hk with rfl | hk
        · omega
        · exact hm k hk

theorem mem_lineSet {ns : List Nat} {k : Nat} : k ∈ lineSet ns ↔ k ∈ ns := by
  induction ns with
  | nil => simp [lineSet]
  | cons n ns ih =>
    rw [lineSet, List.foldr_cons, ← lineSet, mem_insertLine, ih, List.mem_cons]

theorem pairwise_lineSet (ns : List Nat) : (lineSet ns).Pairwise (· < ·) := by
  induction ns with
  | nil => exact .nil
  | cons n ns ih => exact pairwise_insertLine ih

/-- A set of lines is known by its members. -/
theorem lineSet_congr {ms ns : List Nat} (h : ∀ k, k ∈ ms ↔ k ∈ ns) : lineSet ms = lineSet ns := by
  have hnodup (ks : List Nat) : (lineSet ks).Nodup := (pairwise_lineSet ks).imp Nat.ne_of_lt
  have hperm : (lineSet ms).Perm (lineSet ns) :=
    (List.perm_ext_iff_of_nodup (hnodup ms) (hnodup ns)).2 fun k => by
      rw [mem_lineSet, mem_lineSet, h]
  exact hperm.eq_of_pairwise (fun _ _ _ _ hab hba => absurd hab (Nat.lt_asymm hba))
    (pairwise_lineSet ms) (pairwise_lineSet ns)

theorem mem_linesFromTo {first last k : Nat} : k ∈ linesFromTo first last ↔ first ≤ k ∧ k ≤ last := by
  simp only [linesFromTo, List.mem_map, List.mem_range]
  constructor
  · rintro ⟨i, hi, rfl⟩
    omega
  · intro h
    exact ⟨k - first, by omega, by omega⟩

/-! ### Lines of code -/

variable {comments : List Span}

/-- What is left of a character is blank if the character is, or if it stands in a comment. -/
theorem isBlank_blanked (comments : List Span) (offset : Nat) (c : Char) :
    isBlank (if isBlanked comments offset c then ' ' else c) =
      (isBlank c || inComment comments offset) := by
  have hspace : isBlank ' ' = true := by decide
  by_cases hend : c = '\n' ∨ c = '\r'
  · have hblank : isBlank c = true := by
      rcases hend with rfl | rfl <;> decide
    split <;> simp [hblank, hspace]
  · rw [not_or] at hend
    cases hc : inComment comments offset <;> simp [isBlanked, hend, hc, hspace]

theorem linesFrom_blankComments (offset : Nat) (current cs : List Char) (c : Char) :
    linesFrom current (blankComments comments offset (c :: cs)) =
      if c = '\n' then
        current.reverse :: linesFrom [] (blankComments comments (offset + c.utf8Size) cs)
      else
        linesFrom ((if isBlanked comments offset c then ' ' else c) :: current)
          (blankComments comments (offset + c.utf8Size) cs) := by
  rw [blankComments_cons, linesFrom]
  by_cases hc : c = '\n'
  · simp [hc, isBlanked]
  · have hne : (if isBlanked comments offset c then ' ' else c) ≠ '\n' := by
      split
      · decide
      · exact hc
    rw [if_neg hc, if_neg hne]

/-- Whether a character counts for its line: it is not blank, and in no comment. -/
def isCode (comments : List Span) (g : Glyph) : Bool :=
  !isBlank g.char && !inComment comments g.offset

theorem hasText_cons (offset line : Nat) (c : Char) (current : List Char) :
    hasText ((if isBlanked comments offset c then ' ' else c) :: current) =
      (isCode comments ⟨c, offset, line⟩ || hasText current) := by
  rw [hasText, List.any_cons, isBlank_blanked, Bool.not_or]
  rfl

/-- **The line under way and those that follow**: one of them holds text if one of its characters
outside of comments is not blank. -/
theorem getElem?_linesFrom (offset line : Nat) (cs current : List Char) (i : Nat) :
    ((linesFrom current (blankComments comments offset cs)).map hasText)[i]? = some true ↔
      (i = 0 ∧ hasText current) ∨
        ∃ g ∈ glyphs offset line cs, g.line = line + i ∧ isCode comments g := by
  induction cs generalizing offset line current i with
  | nil =>
    rw [blankComments, linesFrom]
    cases current with
    | nil => simp [hasText, glyphs]
    | cons c current =>
      rw [List.isEmpty_cons, if_neg Bool.false_ne_true, List.map_singleton, hasText_reverse]
      cases i <;> simp [glyphs]
  | cons c cs ih =>
    rw [linesFrom_blankComments, glyphs, List.exists_mem_cons_iff]
    by_cases hc : c = '\n'
    · -- the line ends here; the line break is blank, and what follows stands on later lines
      have hbreak : isCode comments ⟨c, offset, line⟩ = false := by
        simp [isCode, hc, show isBlank '\n' = true by decide]
      have hlater : ∀ g ∈ glyphs (offset + c.utf8Size) (line + 1) cs, g.line ≠ line := by
        intro g hg
        have := line_le_of_mem_glyphs hg
        omega
      rw [if_pos hc, if_pos hc, List.map_cons, hasText_reverse, hbreak]
      cases i with
      | zero => simpa using fun g hg hl => absurd hl (hlater g hg)
      | succ i =>
        rw [List.getElem?_cons_succ, ih _ (line + 1), Nat.add_right_comm]
        simp [hasText, Nat.add_assoc]
    · rw [if_neg hc, if_neg hc, ih _ line, hasText_cons offset line]
      have hfirst : line = line + i ↔ i = 0 := by omega
      rw [Bool.or_eq_true, and_or_left, hfirst, or_comm (a := i = 0 ∧ _), or_assoc]

/-- A text has the lines that the index has. -/
theorem lt_length_linesFrom (offset line : Nat) (cs current : List Char) (i : Nat) :
    i < (linesFrom current (blankComments comments offset cs)).length ↔
      (i = 0 ∧ current ≠ []) ∨ ∃ g ∈ glyphs offset line cs, g.line = line + i := by
  induction cs generalizing offset line current i with
  | nil =>
    rw [blankComments, linesFrom]
    cases current <;> simp [glyphs]
  | cons c cs ih =>
    rw [linesFrom_blankComments, glyphs, List.exists_mem_cons_iff]
    by_cases hc : c = '\n'
    · rw [if_pos hc, if_pos hc, List.length_cons]
      cases i with
      | zero => simp
      | succ i =>
        rw [Nat.add_lt_add_iff_right, ih _ (line + 1), Nat.add_right_comm]
        simp [Nat.add_assoc]
    · have hfirst : line = line + i ↔ i = 0 := by omega
      rw [if_neg hc, if_neg hc, ih _ line, hfirst]
      simp only [ne_eq, reduceCtorEq, not_false_eq_true, and_true]
      tauto

/-- The index has as many lines as the text. -/
theorem totalLines_ofText (text : String) (comments : List Span) :
    (ofText text comments).totalLines = lineCount text.toList := by
  have hlt (i : Nat) : i < (ofText text comments).totalLines ↔ i < lineCount text.toList := by
    rw [totalLines, ofText, List.length_map, lines, lt_length_linesFrom 0 1, Nat.add_comm,
      exists_line_iff]
    constructor
    · rintro (⟨-, h⟩ | ⟨-, h⟩)
      · exact absurd rfl h
      · exact h
    · exact fun h => Or.inr ⟨Nat.le_add_left 1 i, h⟩
  have := hlt (lineCount text.toList)
  have := hlt (ofText text comments).totalLines
  omega

theorem inComment_map_spanOf (comments : List SyntaxTree) (offset : Nat) :
    inComment (comments.map Cst.spanOf) offset = true ↔ ∃ n ∈ comments, n.holds offset := by
  simp [inComment, Cst.spanOf, SyntaxTree.holds]

theorem ofText_congr {text : String} {comments others : List Span}
    (h : ∀ s, s ∈ comments ↔ s ∈ others) : ofText text comments = ofText text others := by
  rw [ofText, ofText, blankComments_congr h]
  congr 1
  refine lineSet_congr fun k => ?_
  simp only [List.mem_flatMap, h]

section Classification

variable {text : String} {comments : List SyntaxTree}

/-- The lines of the index that hold code. -/
theorem getElem?_code_ofText (h : ∀ n ∈ comments, n.StandsIn text.toList) (i : Nat) :
    (ofText text (comments.map Cst.spanOf)).code[i]? = some true ↔
      ∃ g ∈ glyphs 0 1 text.toList, g.line = i + 1 ∧ isBlank g.char = false ∧
        ∀ n ∈ comments, ¬n.covers g := by
  have hcode : ∀ g ∈ glyphs 0 1 text.toList, isCode (comments.map Cst.spanOf) g = true ↔
      isBlank g.char = false ∧ ∀ n ∈ comments, ¬n.covers g := by
    intro g hg
    have hcover : inComment (comments.map Cst.spanOf) g.offset = true ↔
        ∃ n ∈ comments, n.covers g := by
      rw [inComment_map_spanOf]
      exact exists_congr fun n => and_congr_right fun hn => ((h n hn).covers_iff hg).symm
    simp [isCode, ← Bool.not_eq_true (inComment _ _), hcover]
  rw [ofText, lines, getElem?_linesFrom 0 1, Nat.add_comm 1]
  simp only [hasText, List.any_nil, Bool.false_eq_true, and_false, false_or]
  refine exists_congr fun g => and_congr_right fun hg => and_congr_right fun _ => hcode g hg

/-- Masking the bytes of the comments leaves a text, and its lines are those of the index. -/
theorem exists_masked_text (h : ∀ n ∈ comments, n.StandsIn text.toList) :
    ∃ masked : String, masked.toUTF8.data.toList =
        maskBytes (comments.map Cst.spanOf) 0 text.toUTF8.data.toList ∧
      (ofText text (comments.map Cst.spanOf)).code = (lines masked.toList).map hasText := by
  have hsame : ∀ g ∈ glyphs 0 1 text.toList, ∀ byte, g.holds byte →
      inComment (comments.map Cst.spanOf) byte = inComment (comments.map Cst.spanOf) g.offset := by
    intro g hg byte hbyte
    rw [Bool.eq_iff_iff, inComment_map_spanOf, inComment_map_spanOf]
    exact exists_congr fun n => and_congr_right fun hn => (h n hn).holds_iff hg hbyte
  refine ⟨String.ofList (blankBytes (comments.map Cst.spanOf) 0 text.toList), ?_, ?_⟩
  · rw [toList_data_toUTF8, ← maskBytes_bytes 0 1 hsame, ← toList_data_toUTF8,
      String.ofList_toList]
  · rw [← code_ofText_blankBytes, ofText, String.toList_ofList, blankComments_nil]

/-- The lines of the index that hold a comment. -/
theorem mem_commentLines_ofText (h : ∀ n ∈ comments, n.StandsIn text.toList) (line : Nat) :
    line ∈ (ofText text (comments.map Cst.spanOf)).commentLines ↔
      ∃ n ∈ comments, ∃ byte, n.holds byte ∧
        ∃ g ∈ glyphs 0 1 text.toList, g.holds byte ∧ g.line = line := by
  rw [ofText, mem_lineSet, List.flatMap_map, List.mem_flatMap]
  refine exists_congr fun n => and_congr_right fun hn => ?_
  rw [mem_linesFromTo, (h n hn).exists_byte_iff]

/-- Only lines of the text hold comments. -/
theorem commentCount_ofText_le (h : ∀ n ∈ comments, n.StandsIn text.toList) :
    (ofText text (comments.map Cst.spanOf)).commentCount ≤ lineCount text.toList := by
  have hsubset : (ofText text (comments.map Cst.spanOf)).commentLines ⊆
      linesFromTo 1 (lineCount text.toList) := by
    intro line hline
    obtain ⟨n, -, byte, -, g, hg, -, heq⟩ := (mem_commentLines_ofText h line).1 hline
    rw [mem_linesFromTo, ← exists_line_iff]
    exact ⟨g, hg, heq⟩
  have hnodup : (ofText text (comments.map Cst.spanOf)).commentLines.Nodup :=
    (pairwise_lineSet _).imp Nat.ne_of_lt
  simpa [commentCount, linesFromTo] using (List.subperm_of_subset hnodup hsubset).length_le

end Classification

/-- **The lines of a text with comments.** Its index has a line for each line of the text. A line is
code if one of its characters is not blank and in no comment, and it holds a comment if a comment
has a byte on it. So at most all lines are code, and at most all hold comments; and neither the
order of the comments matters nor whether some are listed again. -/
theorem ofText_classifies {text : String} {comments : List SyntaxTree}
    (h : ∀ n ∈ comments, n.StandsIn text.toList) :
    let index := ofText text (comments.map Cst.spanOf)
    index.totalLines = lineCount text.toList ∧
      (∀ i, index.code[i]? = some true ↔
        ∃ g ∈ glyphs 0 1 text.toList, g.line = i + 1 ∧ isBlank g.char = false ∧
          ∀ n ∈ comments, ¬n.covers g) ∧
      (∃ masked : String, masked.toUTF8.data.toList =
          maskBytes (comments.map Cst.spanOf) 0 text.toUTF8.data.toList ∧
        index.code = (lines masked.toList).map hasText) ∧
      (∀ line, line ∈ index.commentLines ↔
        ∃ n ∈ comments, ∃ byte, n.holds byte ∧
          ∃ g ∈ glyphs 0 1 text.toList, g.holds byte ∧ g.line = line) ∧
      index.commentLines.Pairwise (· < ·) ∧
      index.commentCount ≤ index.totalLines ∧
      index.realLines ≤ index.totalLines ∧
      ∀ others : List SyntaxTree, (∀ n, n ∈ others ↔ n ∈ comments) →
        ofText text (others.map Cst.spanOf) = index := by
  refine ⟨totalLines_ofText _ _, getElem?_code_ofText h, exists_masked_text h,
    mem_commentLines_ofText h, pairwise_lineSet _, ?_, ?_, ?_⟩
  · rw [totalLines_ofText]
    exact commentCount_ofText_le h
  · exact List.countP_le_length
  · intro others hothers
    refine ofText_congr fun s => ?_
    simp only [List.mem_map, hothers]

/-- A comment with a given text before it. -/
def commentAfter (before piece : List Char) : SyntaxTree where
  kind := "comment"
  named := true
  field := none
  isError := false
  isMissing := false
  hasError := false
  start := .after before
  stop := .after (before ++ piece)
  children := []

/-- A comment over two lines with a character of two bytes, code after it, and a comment that takes
in its line break. -/
def commentedText : String := "/* é\n*/ x\n// y\n"

/-- The comments of `commentedText`, the last one first. -/
def textComments : List SyntaxTree :=
  [commentAfter "/* é\n*/ x\n".toList "// y\n".toList, commentAfter [] "/* é\n*/".toList]

/-- Only the second line of `commentedText` is code, and all three hold comments. -/
theorem ofText_classifies_commentedText :
    (∀ n ∈ textComments, n.StandsIn commentedText.toList) ∧
      ofText commentedText (textComments.map Cst.spanOf) = ⟨[false, true, false], [1, 2, 3]⟩ ∧
      lineCount commentedText.toList = 3 ∧
      (∃ g ∈ glyphs 0 1 commentedText.toList, g.line = 2 ∧ isBlank g.char = false ∧
        ∀ n ∈ textComments, ¬n.covers g) ∧
      ∃ n ∈ textComments, ∃ byte, n.holds byte ∧
        ∃ g ∈ glyphs 0 1 commentedText.toList, g.holds byte ∧ g.line = 3 := by
  have h : ∀ n ∈ textComments, n.StandsIn commentedText.toList := by
    rw [textComments, List.forall_mem_cons, List.forall_mem_singleton]
    exact ⟨⟨"/* é\n*/ x\n".toList, "// y\n".toList, [], by decide, by decide, rfl, rfl⟩,
      ⟨[], "/* é\n*/".toList, " x\n// y\n".toList, by decide, by decide, rfl, rfl⟩⟩
  have hindex : ofText commentedText (textComments.map Cst.spanOf) =
      ⟨[false, true, false], [1, 2, 3]⟩ := by decide
  obtain ⟨htotal, hcode, -, hcomment, -⟩ := ofText_classifies h
  rw [hindex] at htotal hcode hcomment
  exact ⟨h, hindex, htotal.symm, (hcode 1).1 rfl, (hcomment 3).1 (by decide)⟩

end LineIndex

end CodeMetrics
