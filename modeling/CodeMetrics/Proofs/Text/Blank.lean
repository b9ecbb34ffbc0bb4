import CodeMetrics.Cst.OfSyntax
import CodeMetrics.LineIndex
import Mathlib.Data.List.Basic

/-!
# Texts with blank comments

`Text.blankBytes` puts a space in place of every byte of a comment, line ends excepted, so that
everything else keeps its place. Two readers of a text do not see the difference: what stands
between two offsets is the same unless a comment meets it (`Cst.bytesBetween?_blankBytes`), and the
same lines hold code (`LineIndex.map_hasText_blankComments`).
-/

namespace CodeMetrics

/-- **Whether two spans meet**: each begins before the other one ends. -/
def Span.meets (s t : Span) : Bool := s.start < t.stop && t.start < s.stop

/-- Whether a span meets none of some comments. -/
def Span.ClearOf (t : Span) (comments : List Span) : Prop := ∀ s ∈ comments, s.meets t = false

instance (t : Span) (comments : List Span) : Decidable (t.ClearOf comments) :=
  inferInstanceAs (Decidable (∀ s ∈ comments, s.meets t = false))

namespace Text

/-- Whether a character at an offset is blanked: it stands in a comment, and ends no line. -/
def isBlanked (comments : List Span) (offset : Nat) (c : Char) : Bool :=
  c ≠ '\n' && c ≠ '\r' && LineIndex.inComment comments offset

/-- **Replaces the bytes of comments by spaces**, line ends excepted; `offset` is the byte offset of
the first character. -/
def blankBytes (comments : List Span) : Nat → List Char → List Char
  | _, [] => []
  | offset, c :: cs =>
    (if isBlanked comments offset c then List.replicate c.utf8Size ' ' else [c]) ++
      blankBytes comments (offset + c.utf8Size) cs

/-- Whether comments end between characters: one that has the first byte of a character has all of
them. -/
def EndBetween (comments : List Span) : Nat → List Char → Prop
  | _, [] => True
  | offset, c :: cs =>
    (∀ s ∈ comments, s.start ≤ offset → offset < s.stop → offset + c.utf8Size ≤ s.stop) ∧
      EndBetween comments (offset + c.utf8Size) cs

instance EndBetween.decidable (comments : List Span) :
    (offset : Nat) → (cs : List Char) → Decidable (EndBetween comments offset cs)
  | _, [] => .isTrue trivial
  | offset, c :: cs =>
    have := EndBetween.decidable comments (offset + c.utf8Size) cs
    inferInstanceAs (Decidable (_ ∧ _))

variable {comments : List Span} {offset : Nat}

theorem exists_of_isBlanked {c : Char} (h : isBlanked comments offset c) :
    ∃ s ∈ comments, s.start ≤ offset ∧ offset < s.stop := by
  rw [isBlanked, Bool.and_eq_true] at h
  simpa [LineIndex.inComment] using h.2

theorem blankBytes_cons_of_isBlanked {c : Char} (h : isBlanked comments offset c)
    (cs : List Char) : blankBytes comments offset (c :: cs) =
      List.replicate c.utf8Size ' ' ++ blankBytes comments (offset + c.utf8Size) cs := by
  rw [blankBytes, if_pos h]

theorem blankBytes_cons_of_not_isBlanked {c : Char} (h : ¬isBlanked comments offset c)
    (cs : List Char) : blankBytes comments offset (c :: cs) =
      c :: blankBytes comments (offset + c.utf8Size) cs := by
  rw [blankBytes, if_neg h]
  rfl

end Text

/-! ### Reading between offsets -/

namespace Cst

open Text

variable {comments : List Span} {offset : Nat}

theorem dropBytes_cons (n : Nat) (c : Char) (cs : List Char) :
    dropBytes (n + 1) (c :: cs) =
      if c.utf8Size ≤ n + 1 then dropBytes (n + 1 - c.utf8Size) cs else none := by
  rw [dropBytes]

/-- Spaces are dropped byte by byte. -/
theorem dropBytes_replicate_append (k n : Nat) (cs : List Char) :
    dropBytes (k + n) (List.replicate k ' ' ++ cs) = dropBytes n cs := by
  induction k with
  | zero => simp
  | succ k ih =>
    have hsize : ' '.utf8Size = 1 := rfl
    rw [List.replicate_succ, List.cons_append, Nat.succ_add, dropBytes_cons, hsize,
      if_pos (Nat.le_add_left 1 _)]
    exact ih

/-- What follows an offset that no comment goes across is blanked on its own. -/
theorem dropBytes_blankBytes {cs : List Char} (hends : EndBetween comments offset cs) {n : Nat}
    (hn : ∀ s ∈ comments, s.start < offset + n → s.stop ≤ offset + n) :
    dropBytes n (blankBytes comments offset cs) =
      (dropBytes n cs).map (blankBytes comments (offset + n)) := by
  induction cs generalizing offset n with
  | nil => cases n <;> simp [blankBytes, dropBytes]
  | cons c cs ih =>
    obtain ⟨hc, hends⟩ := hends
    cases n with
    | zero => simp [dropBytes]
    | succ n =>
      rw [dropBytes_cons]
      by_cases hle : c.utf8Size ≤ n + 1
      · obtain ⟨k, hk⟩ := Nat.exists_eq_add_of_le hle
        have hrest := ih (n := k) hends fun s hs hstart => by
          have := hn s hs (by omega)
          omega
        rw [if_pos hle, hk, Nat.add_sub_cancel_left, ← Nat.add_assoc, ← hrest]
        by_cases hb : isBlanked comments offset c
        · rw [blankBytes_cons_of_isBlanked hb, dropBytes_replicate_append]
        · rw [blankBytes_cons_of_not_isBlanked hb, ← hk, dropBytes_cons, if_pos hle, hk,
            Nat.add_sub_cancel_left]
      · -- a comment that holds the character would hold all of it, and go across the offset
        have hb : ¬isBlanked comments offset c := by
          intro hb
          obtain ⟨s, hs, hstart, hstop⟩ := exists_of_isBlanked hb
          have := hc s hs hstart hstop
          have := hn s hs (by omega)
          omega
        rw [blankBytes_cons_of_not_isBlanked hb, dropBytes_cons, if_neg hle, if_neg hle]
        rfl

/-- Nothing is blanked before the first comment. -/
theorem takeBytes_blankBytes (cs : List Char) {n : Nat}
    (hn : ∀ s ∈ comments, offset < s.stop → offset + n ≤ s.start) :
    takeBytes n (blankBytes comments offset cs) = takeBytes n cs := by
  induction cs generalizing offset n with
  | nil => rfl
  | cons c cs ih =>
    cases n with
    | zero => simp [takeBytes]
    | succ n =>
      have hb : ¬isBlanked comments offset c := by
        intro hb
        obtain ⟨s, hs, hstart, hstop⟩ := exists_of_isBlanked hb
        have := hn s hs hstop
        omega
      rw [blankBytes_cons_of_not_isBlanked hb, takeBytes, takeBytes]
      split
      · next hle => rw [ih (by intro s hs; have := hn s hs; omega)]
      · rfl

/-- **Blanking keeps what no comment meets.** -/
theorem bytesBetween?_blankBytes {text : List Char} (hends : EndBetween comments 0 text) {t : Span}
    (ht : t.ClearOf comments) :
    bytesBetween? (blankBytes comments 0 text) t.start t.stop =
      bytesBetween? text t.start t.stop := by
  have hmeets : ∀ s ∈ comments, ¬(s.start < t.stop ∧ t.start < s.stop) := by
    intro s hs
    simpa [Span.meets] using ht s hs
  unfold bytesBetween?
  split
  · next hle =>
    have hdrop := dropBytes_blankBytes (n := t.start) hends fun s hs hstart => by
      have := hmeets s hs
      omega
    have htake (cs : List Char) : takeBytes (t.stop - t.start) (blankBytes comments t.start cs) =
        takeBytes (t.stop - t.start) cs :=
      takeBytes_blankBytes cs fun s hs hstop => by
        have := hmeets s hs
        omega
    rw [Nat.zero_add] at hdrop
    rw [hdrop, Option.bind_map]
    simp only [Function.comp_def, htake]
  · rfl

end Cst

/-! ### Lines of code -/

namespace LineIndex

open Text

variable {comments : List Span} {offset : Nat}

theorem inComment_congr {comments' : List Span} (h : ∀ s, s ∈ comments ↔ s ∈ comments')
    (offset : Nat) : inComment comments offset = inComment comments' offset := by
  rw [inComment, inComment, Bool.eq_iff_iff, List.any_eq_true, List.any_eq_true]
  exact exists_congr fun s => and_congr_left' (h s)

theorem blankComments_congr {comments' : List Span} (h : ∀ s, s ∈ comments ↔ s ∈ comments')
    (cs : List Char) : blankComments comments offset cs = blankComments comments' offset cs := by
  induction cs generalizing offset with
  | nil => rfl
  | cons c cs ih => rw [blankComments, blankComments, inComment_congr h, ih]

theorem blankComments_cons (c : Char) (cs : List Char) :
    blankComments comments offset (c :: cs) =
      (if isBlanked comments offset c then ' ' else c) ::
        blankComments comments (offset + c.utf8Size) cs := rfl

theorem blankComments_nil (offset : Nat) (cs : List Char) : blankComments [] offset cs = cs := by
  induction cs generalizing offset with
  | nil => rfl
  | cons c cs ih => simp [blankComments, inComment, ih]

/-- Characters that end no line belong to the current one. -/
theorem linesFrom_replicate_append (k : Nat) (line cs : List Char) :
    linesFrom line (List.replicate k ' ' ++ cs) = linesFrom (List.replicate k ' ' ++ line) cs := by
  induction k generalizing line with
  | zero => rfl
  | succ k ih =>
    have hspaces : List.replicate k ' ' ++ ' ' :: line = List.replicate (k + 1) ' ' ++ line := by
      rw [List.replicate_succ', List.append_assoc, List.singleton_append]
    rw [List.replicate_succ, List.cons_append, linesFrom, if_neg (by decide), ih, hspaces,
      List.replicate_succ]

/-- What matters of a line: whether there is one, and whether it holds anything but blanks. -/
structure SameLine (line line' : List Char) : Prop where
  isEmpty : line.isEmpty = line'.isEmpty
  hasText : hasText line = hasText line'

theorem SameLine.cons {line line' : List Char} (h : SameLine line line') (c : Char) :
    SameLine (c :: line) (c :: line') :=
  ⟨rfl, by simpa [LineIndex.hasText] using congrArg (!isBlank c || ·) h.hasText⟩

theorem SameLine.space {line line' : List Char} (h : SameLine line line') {k : Nat} (hk : 0 < k) :
    SameLine (' ' :: line) (List.replicate k ' ' ++ line') := by
  have hblank : isBlank ' ' = true := by decide
  refine ⟨?_, ?_⟩
  · simp [Nat.ne_of_gt hk]
  · have := h.hasText
    simp_all [LineIndex.hasText, List.any_replicate]

theorem hasText_reverse (line : List Char) : hasText line.reverse = hasText line := by
  simp [hasText]

/-- The lines of a text hold the same whether a comment leaves one space for each character or one
for each byte. -/
theorem map_hasText_linesFrom {line line' : List Char} (h : SameLine line line')
    (cs : List Char) :
    (linesFrom line (blankComments comments offset cs)).map hasText =
      (linesFrom line' (blankBytes comments offset cs)).map hasText := by
  induction cs generalizing offset line line' with
  | nil =>
    rw [blankComments, blankBytes, linesFrom, linesFrom, h.isEmpty]
    split <;> simp [hasText_reverse, h.hasText]
  | cons c cs ih =>
    rw [blankComments_cons]
    by_cases hb : isBlanked comments offset c
    · -- spaces end no line; their number does not matter as long as there is one
      rw [blankBytes_cons_of_isBlanked hb, if_pos hb, linesFrom, if_neg (by decide),
        linesFrom_replicate_append]
      exact ih (h.space c.utf8Size_pos)
    · rw [blankBytes_cons_of_not_isBlanked hb, if_neg hb, linesFrom, linesFrom]
      split
      · rw [List.map_cons, List.map_cons, hasText_reverse, hasText_reverse, h.hasText,
          ih ⟨rfl, rfl⟩]
      · exact ih (h.cons c)

/-- **The same lines hold code** in a text with comments and in one with the comments blanked. -/
theorem code_ofText_blankBytes (text : String) (comments : List Span) :
    (ofText (String.ofList (blankBytes comments 0 text.toList)) []).code =
      (ofText text comments).code := by
  simp only [ofText, String.toList_ofList, blankComments_nil]
  exact (map_hasText_linesFrom ⟨rfl, rfl⟩ text.toList).symm

end LineIndex

end CodeMetrics
