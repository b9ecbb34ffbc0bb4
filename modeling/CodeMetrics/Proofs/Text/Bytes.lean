import CodeMetrics.Proofs.Text.Blank
import CodeMetrics.Proofs.Text.Lines

/-!
# Blanking byte by byte

Comments can be blanked without a look at the characters: `Text.maskBytes` puts a space in place of
each byte of a comment, unless the byte is that of a line end. Such a byte is never part of a longer
character (`Text.eq_of_mem_utf8EncodeChar`), so if comments begin and end between characters, what
is left are again the bytes of a text, and that text has the same lines of code as the index
(`Text.maskBytes_bytes`).
-/

namespace CodeMetrics.Text

open LineIndex

/-- The bytes of a text. -/
def bytes (cs : List Char) : List UInt8 := cs.flatMap String.utf8EncodeChar

/-- **Puts a space in place of each byte of a comment**, line ends excepted; `offset` is the offset
of the first byte. -/
def maskBytes (comments : List Span) : Nat → List UInt8 → List UInt8
  | _, [] => []
  | offset, b :: bs =>
    (if b ≠ 10 && b ≠ 13 && inComment comments offset then 32 else b) ::
      maskBytes comments (offset + 1) bs

theorem bytes_append (cs ds : List Char) : bytes (cs ++ ds) = bytes cs ++ bytes ds :=
  List.flatMap_append

theorem bytes_replicate_space (k : Nat) : bytes (List.replicate k ' ') = List.replicate k 32 := by
  induction k with
  | zero => rfl
  | succ k ih =>
    rw [List.replicate_succ, List.replicate_succ, ← ih]
    rfl

/-- The bytes of a string are those of its characters. -/
theorem toList_data_toUTF8 (cs : List Char) : (String.ofList cs).toUTF8.data.toList = bytes cs := by
  simp [List.utf8Encode, bytes]

/-- A byte below 128 is a character of its own. -/
theorem toNat_eq_of_mem_utf8EncodeChar {c : Char} {b : UInt8} (hb : b ∈ String.utf8EncodeChar c)
    (hlt : b.toNat < 128) : c.toNat = b.toNat := by
  -- all bytes of a longer character have their highest bit set
  have hhigh (x m : UInt8) (hm : 128 ≤ m.toNat) : 128 ≤ (x ||| m).toNat := by
    rw [UInt8.toNat_or]
    exact Nat.le_trans hm Nat.right_le_or
  rcases c.utf8Size_eq with hsize | hsize | hsize | hsize
  · rw [String.utf8EncodeChar_eq_singleton hsize, List.mem_singleton] at hb
    rw [Char.utf8Size_eq_one_iff, UInt32.le_iff_toNat_le] at hsize
    have hmod : c.toNat % 256 = c.toNat := Nat.mod_eq_of_lt (Nat.lt_of_le_of_lt hsize (by decide))
    rw [hb, UInt32.toNat_toUInt8]
    exact hmod.symm
  · rw [String.utf8EncodeChar_eq_cons_cons hsize] at hb
    simp only [List.mem_cons, List.not_mem_nil, or_false] at hb
    rcases hb with rfl | rfl <;> exact absurd hlt (Nat.not_lt.2 (hhigh _ _ (by decide)))
  · rw [String.utf8EncodeChar_eq_cons_cons_cons hsize] at hb
    simp only [List.mem_cons, List.not_mem_nil, or_false] at hb
    rcases hb with rfl | rfl | rfl <;> exact absurd hlt (Nat.not_lt.2 (hhigh _ _ (by decide)))
  · rw [String.utf8EncodeChar_eq_cons_cons_cons_cons hsize] at hb
    simp only [List.mem_cons, List.not_mem_nil, or_false] at hb
    rcases hb with rfl | rfl | rfl | rfl <;>
      exact absurd hlt (Nat.not_lt.2 (hhigh _ _ (by decide)))

/-- The bytes of a character that ends no line are none of a line end. -/
theorem ne_of_mem_utf8EncodeChar {c : Char} (hn : c ≠ '\n') (hr : c ≠ '\r') {b : UInt8}
    (hb : b ∈ String.utf8EncodeChar c) : b ≠ 10 ∧ b ≠ 13 := by
  have hne (d : Char) (hd : c ≠ d) (x : UInt8) (hx : x.toNat = d.toNat) (hlt : x.toNat < 128) :
      b ≠ x := by
    rintro rfl
    exact hd (Char.toNat_inj.1 ((toNat_eq_of_mem_utf8EncodeChar hb hlt).trans hx))
  exact ⟨hne _ hn 10 rfl (by decide), hne _ hr 13 rfl (by decide)⟩

section Mask

variable {comments : List Span}

theorem maskBytes_append (offset : Nat) (bs ds : List UInt8) :
    maskBytes comments offset (bs ++ ds) =
      maskBytes comments offset bs ++ maskBytes comments (offset + bs.length) ds := by
  induction bs generalizing offset with
  | nil => rfl
  | cons b bs ih =>
    rw [List.cons_append, maskBytes, maskBytes, ih, List.length_cons, List.cons_append,
      Nat.add_right_comm, Nat.add_assoc]

/-- Bytes that are all in comments, or none of them, are masked together. -/
theorem maskBytes_eq (offset : Nat) {bs : List UInt8} {masked : Bool}
    (hends : ∀ b ∈ bs, b ≠ 10 ∧ b ≠ 13)
    (hsame : ∀ i < bs.length, inComment comments (offset + i) = masked) :
    maskBytes comments offset bs = if masked then List.replicate bs.length 32 else bs := by
  induction bs generalizing offset with
  | nil => simp [maskBytes]
  | cons b bs ih =>
    have hfirst := hsame 0 (by simp)
    have hrest := ih (offset + 1) (fun d hd => hends d (List.mem_cons_of_mem b hd)) fun i hi => by
      rw [Nat.add_assoc, Nat.add_comm 1]
      exact hsame (i + 1) (by simpa using hi)
    obtain ⟨h10, h13⟩ := hends b List.mem_cons_self
    rw [maskBytes, hrest, ← Nat.add_zero offset, hfirst]
    cases masked <;> simp [h10, h13, List.replicate_succ]

/-- What masking leaves of one character. -/
theorem maskBytes_utf8EncodeChar {offset : Nat} {c : Char}
    (h : ∀ byte, offset ≤ byte → byte < offset + c.utf8Size →
      inComment comments byte = inComment comments offset) :
    maskBytes comments offset (String.utf8EncodeChar c) =
      bytes (if isBlanked comments offset c then List.replicate c.utf8Size ' ' else [c]) := by
  by_cases hend : c = '\n' ∨ c = '\r'
  · rcases hend with rfl | rfl <;> rfl
  · rw [not_or] at hend
    rw [maskBytes_eq offset (fun b hb => ne_of_mem_utf8EncodeChar hend.1 hend.2 hb) fun i hi =>
      h (offset + i) (Nat.le_add_right _ _) (by simpa using hi)]
    cases hc : inComment comments offset with
    | false => simp [isBlanked, hc, bytes]
    | true => simp [isBlanked, hc, hend, bytes_replicate_space]

/-- **The bytes that masking leaves are those of the text with blank comments**, if no comment goes
apart within a character. -/
theorem maskBytes_bytes (offset line : Nat) {cs : List Char}
    (h : ∀ g ∈ glyphs offset line cs, ∀ byte, g.holds byte →
      inComment comments byte = inComment comments g.offset) :
    maskBytes comments offset (bytes cs) = bytes (blankBytes comments offset cs) := by
  induction cs generalizing offset line with
  | nil => rfl
  | cons c cs ih =>
    rw [glyphs, List.forall_mem_cons] at h
    obtain ⟨hfirst, hrest⟩ := h
    have hcs : maskBytes comments (offset + c.utf8Size) (bytes cs) =
        bytes (blankBytes comments (offset + c.utf8Size) cs) := ih _ _ hrest
    rw [blankBytes, bytes_append, ← hcs, bytes, List.flatMap_cons, maskBytes_append,
      String.length_utf8EncodeChar]
    congr 1
    exact maskBytes_utf8EncodeChar fun byte hle hlt => hfirst byte ⟨hle, hlt⟩

end Mask

end CodeMetrics.Text
