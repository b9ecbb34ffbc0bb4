import CodeMetrics.Proofs.StructuralUnit.Bodies

/-!
# Lines of code in a range

`LineIndex.realBetween` takes a range of lines, both ends included and counted from one, and cuts a
list at positions counted from zero. What it counts is said by `LineIndex.codeLines`, the set of the
numbers of all lines of code: the members that lie in the range (`LineIndex.realBetween_eq_card`).
Nothing is asked of the range, which may be empty, out of order or beyond the end of the file.

The list is only ever looked at from its beginning: the code lines among the first `n`
(`LineIndex.countP_take`). A range is the difference of two such beginnings
(`LineIndex.realBetween_add`), so ranges that follow each other add up.

A unit has the code lines in the range of its span, whatever that is. So it has no more of them than
its span has lines, and no more than the file.
-/

namespace CodeMetrics

namespace LineIndex

variable (l : LineIndex) {first mid last : Nat}

/-- **The numbers of the lines of code.** -/
def codeLines : Finset Nat := {i ∈ Finset.Icc 1 l.totalLines | l.code[i - 1]? = some true}

theorem mem_codeLines {i : Nat} : i ∈ l.codeLines ↔ 1 ≤ i ∧ l.code[i - 1]? = some true := by
  rw [codeLines, Finset.mem_filter, Finset.mem_Icc]
  constructor
  · rintro ⟨⟨hpos, -⟩, hcode⟩
    exact ⟨hpos, hcode⟩
  · rintro ⟨hpos, hcode⟩
    have hlt : i - 1 < l.totalLines := (List.getElem?_eq_some_iff.1 hcode).1
    exact ⟨⟨hpos, by omega⟩, hcode⟩

theorem le_totalLines_of_mem_codeLines {i : Nat} (h : i ∈ l.codeLines) : i ≤ l.totalLines :=
  (Finset.mem_Icc.1 (Finset.mem_filter.1 h).1).2

/-- Code lines of two sorts that exclude each other. -/
theorem card_codeLines_of_split {p q r : Nat → Prop} [DecidablePred p] [DecidablePred q]
    [DecidablePred r] (hsplit : ∀ i ∈ l.codeLines, r i ↔ p i ∨ q i)
    (hexclude : ∀ i ∈ l.codeLines, p i → ¬q i) :
    {i ∈ l.codeLines | r i}.card =
      {i ∈ l.codeLines | p i}.card + {i ∈ l.codeLines | q i}.card := by
  rw [Finset.filter_congr hsplit, Finset.filter_or]
  exact Finset.card_union_of_disjoint (Finset.disjoint_filter.2 hexclude)

/-! ### Beginnings of the file -/

/-- **The code lines among the first lines of a file.** -/
theorem countP_take (n : Nat) : (l.code.take n).countP id = {i ∈ l.codeLines | i ≤ n}.card := by
  induction n with
  | zero =>
    symm
    rw [List.take_zero, List.countP_nil, Finset.card_eq_zero, Finset.filter_eq_empty_iff]
    intro i hi hle
    have hpos := (l.mem_codeLines.1 hi).1
    omega
  | succ n ih =>
    have hsplit := l.card_codeLines_of_split (p := (· ≤ n)) (q := (· = n + 1)) (r := (· ≤ n + 1))
      (fun i _ => by omega) (fun i _ hle => by omega)
    have hlast : {i ∈ l.codeLines | i = n + 1}.card = l.code[n]?.toList.countP id := by
      rw [Finset.filter_eq']
      cases hcode : l.code[n]? with
      | none => simp [mem_codeLines, hcode]
      | some isCode => cases isCode <;> simp [mem_codeLines, hcode]
    rw [List.take_add_one, List.countP_append, ih, hsplit, hlast]

/-- The code lines of a file are all that it counts. -/
theorem realLines_eq_card : l.realLines = l.codeLines.card := by
  have hall : {i ∈ l.codeLines | i ≤ l.totalLines} = l.codeLines :=
    Finset.filter_true_of_mem fun i hi => l.le_totalLines_of_mem_codeLines hi
  have hcount := l.countP_take l.totalLines
  rw [hall, totalLines, List.take_length] at hcount
  exact hcount

/-! ### Ranges -/

theorem realBetween_eq_zero (h : first = 0 ∨ last < first) : l.realBetween first last = 0 := by
  rw [realBetween, if_pos (by simpa using h)]

/-- **A range is the difference of two beginnings.** -/
theorem realBetween_add (hpos : 1 ≤ first) (hle : first ≤ last + 1) :
    l.realBetween first last + (l.code.take (first - 1)).countP id =
      (l.code.take last).countP id := by
  rcases Nat.lt_or_ge last first with hlt | hge
  · -- the range ends right before it begins
    obtain rfl : first = last + 1 := by omega
    rw [l.realBetween_eq_zero (Or.inr hlt), Nat.zero_add, Nat.add_sub_cancel]
  · have hproper : ¬(first = 0 || first > last) = true := by
      simp only [Bool.or_eq_true, decide_eq_true_eq]
      omega
    have hbegin : (l.code.take last).take (first - 1) = l.code.take (first - 1) := by
      rw [List.take_take, Nat.min_eq_left (by omega)]
    calc l.realBetween first last + (l.code.take (first - 1)).countP id
        = ((l.code.take last).drop (first - 1)).countP id +
            ((l.code.take last).take (first - 1)).countP id := by
          rw [realBetween, if_neg hproper, hbegin]
      _ = (l.code.take last).countP id := by
          rw [Nat.add_comm, ← List.countP_append, List.take_append_drop]

/-- **The number of code lines in a range.** -/
theorem realBetween_eq_card (first last : Nat) :
    l.realBetween first last = {i ∈ l.codeLines | 1 ≤ first ∧ first ≤ i ∧ i ≤ last}.card := by
  by_cases hproper : 1 ≤ first ∧ first ≤ last
  · have hsplit := l.card_codeLines_of_split (p := fun i => 1 ≤ first ∧ first ≤ i ∧ i ≤ last)
      (q := (· ≤ first - 1)) (r := (· ≤ last)) (fun i _ => by omega) (fun i _ hi => by omega)
    have hadd := l.realBetween_add hproper.1 (Nat.le_succ_of_le hproper.2)
    rw [countP_take, countP_take, hsplit] at hadd
    exact Nat.add_right_cancel hadd
  · rw [l.realBetween_eq_zero (by omega), eq_comm, Finset.card_eq_zero,
      Finset.filter_eq_empty_iff]
    intro i _ hi
    omega

/-- **Ranges that follow each other add up.** -/
theorem realBetween_add_realBetween (hpos : 1 ≤ first) (hmid : first ≤ mid + 1)
    (hlast : mid ≤ last) :
    l.realBetween first mid + l.realBetween (mid + 1) last = l.realBetween first last := by
  have hleft := l.realBetween_add hpos hmid
  have hright := l.realBetween_add (Nat.le_add_left 1 mid) (Nat.succ_le_succ hlast)
  have hwhole := l.realBetween_add hpos (Nat.le_trans hmid (Nat.succ_le_succ hlast))
  rw [Nat.add_sub_cancel] at hright
  omega

/-- A range that takes in all lines of code counts them all. -/
theorem realBetween_of_covers (hpos : 1 ≤ first)
    (h : ∀ i ∈ l.codeLines, first ≤ i ∧ i ≤ last) : l.realBetween first last = l.realLines := by
  rw [realBetween_eq_card, realLines_eq_card, Finset.filter_true_of_mem]
  intro i hi
  exact ⟨hpos, h i hi⟩

/-- Lines past the end of the file do not count. -/
theorem realBetween_min (first last : Nat) :
    l.realBetween first (min last l.totalLines) = l.realBetween first last := by
  rw [realBetween_eq_card, realBetween_eq_card]
  congr 1
  refine Finset.filter_congr fun i hi => ?_
  have hle := l.le_totalLines_of_mem_codeLines hi
  omega

theorem realBetween_le_realLines (first last : Nat) : l.realBetween first last ≤ l.realLines := by
  rw [realBetween_eq_card, realLines_eq_card]
  exact Finset.card_le_card (Finset.filter_subset _ _)

theorem realBetween_le_lineCount (s : Span) :
    l.realBetween s.startLine s.endLine ≤ s.lineCount := by
  have hsubset : {i ∈ l.codeLines | 1 ≤ s.startLine ∧ s.startLine ≤ i ∧ i ≤ s.endLine} ⊆
      Finset.Icc s.startLine s.endLine := by
    intro i hi
    exact Finset.mem_Icc.2 (Finset.mem_filter.1 hi).2.2
  calc l.realBetween s.startLine s.endLine
      ≤ (Finset.Icc s.startLine s.endLine).card := by
        rw [realBetween_eq_card]
        exact Finset.card_le_card hsubset
    _ = s.endLine + 1 - s.startLine := Nat.card_Icc ..
    _ ≤ s.lineCount := by
        rw [Span.lineCount]
        omega

end LineIndex

/-! ### Units -/

/-- The number of lines of a span is a word, if its last line is not the greatest one. -/
theorem Span.toNat_lineCount {s : Span} (h : s.endLine < 2 ^ 64 - 1) :
    (UInt64.ofNat s.lineCount).toNat = s.lineCount := by
  refine UInt64.toNat_ofNat_of_lt' ?_
  have hsize : UInt64.size = 2 ^ 64 := rfl
  rw [Span.lineCount, hsize]
  omega

theorem StructuralUnit.Place.Describes.realLines_eq {lines : LineIndex} {q : List Place × Place}
    {u : StructuralUnit} (h : Describes lines q u) :
    u.realLines = lines.realBetween u.span.startLine u.span.endLine := by
  rcases h with h | h
  · rw [h.realLines, h.span]
  · rw [h.realLines, h.span]

namespace StructuralModel

open StructuralUnit

/-- A unit of a model has the code lines of its span. -/
theorem realLines_of_mem_units {d : Document} {m : StructuralModel} {u : StructuralUnit}
    (h : ofDocument d = .ok m) (hu : u ∈ m.units) :
    u.realLines = d.lines.realBetween u.span.startLine u.span.endLine := by
  obtain ⟨q, -, hdescribed⟩ := exists_describes_of_mem_units h hu
  exact hdescribed.realLines_eq

end StructuralModel

namespace LineIndex

/-- **Counting in ranges of lines.** In a range from one line to another the code lines are counted
whose numbers lie in it; there are none if the range begins before the first line or ends before it
begins, and lines past the end of the file are left out. Ranges that follow each other add up, and a
range that takes in all lines of the file has all its code lines.

A unit of a model has the code lines in the range of its span, wherever in the file or out of it
that lies. They are at most as many as the span has lines, a number that is a word if that of the
last line is not the greatest one, and at most as many as the file has. -/
theorem realBetween_counts (l : LineIndex) :
    (∀ first last, l.realBetween first last =
      {i ∈ l.codeLines | 1 ≤ first ∧ first ≤ i ∧ i ≤ last}.card) ∧
    (∀ i, i ∈ l.codeLines ↔ 1 ≤ i ∧ l.code[i - 1]? = some true) ∧
    (∀ first last, first = 0 ∨ last < first → l.realBetween first last = 0) ∧
    (∀ first last, l.realBetween first (min last l.totalLines) = l.realBetween first last) ∧
    (∀ first mid last, 1 ≤ first → first ≤ mid + 1 → mid ≤ last →
      l.realBetween first mid + l.realBetween (mid + 1) last = l.realBetween first last) ∧
    (∀ first last, 1 ≤ first → (∀ i, 1 ≤ i → i ≤ l.totalLines → first ≤ i ∧ i ≤ last) →
      l.realBetween first last = l.realLines) ∧
    ∀ (language : Language) (root : Cst.Node) (m : StructuralModel),
      StructuralModel.ofDocument ⟨language, root, l⟩ = .ok m →
        m.lines.realLines = l.realLines ∧
          ∀ u ∈ m.units,
            u.realLines = l.realBetween u.span.startLine u.span.endLine ∧
              u.realLines ≤ u.span.lineCount ∧
              (u.span.endLine < 2 ^ 64 - 1 →
                (UInt64.ofNat u.span.lineCount).toNat = u.span.lineCount) ∧
              u.realLines ≤ l.realLines := by
  refine ⟨l.realBetween_eq_card, fun i => l.mem_codeLines, fun first last => l.realBetween_eq_zero,
    l.realBetween_min, fun first mid last => l.realBetween_add_realBetween, ?_, ?_⟩
  · intro first last hpos hcovers
    refine l.realBetween_of_covers hpos fun i hi => ?_
    exact hcovers i (l.mem_codeLines.1 hi).1 (l.le_totalLines_of_mem_codeLines hi)
  · intro language root m h
    refine ⟨?_, fun u hu => ?_⟩
    · obtain ⟨units, -, hm⟩ := StructuralUnit.bind_eq_ok h
      cases hm
      rfl
    · have hlines := StructuralModel.realLines_of_mem_units h hu
      refine ⟨hlines, ?_, Span.toNat_lineCount, ?_⟩
      · rw [hlines]
        exact l.realBetween_le_lineCount u.span
      · rw [hlines]
        exact l.realBetween_le_realLines u.span.startLine u.span.endLine

/-- Four lines, all but the second one code. -/
def fourLines : LineIndex := ⟨[true, false, true, true], [2]⟩

/-- A function definition that is said to begin on the second line and to end on the tenth. -/
def overhangingRoot : Cst.Node :=
  ⟨.functionDefinition, { stop := 6, startLine := 2, endLine := 10 }, none, none, [
    .identifier .declarator "f", .bare .compound (some .body) []]⟩

/-- The unit of `overhangingRoot`. -/
def overhangingUnit : StructuralUnit where
  name := "f"
  kind := .function
  parameterCount := 0
  body := []
  span := { stop := 6, startLine := 2, endLine := 10 }
  enclosingType := none
  lambdaCount := 0
  realLines := 2

/-- A span of nine lines in a file of four has two of the three lines of code. -/
theorem realBetween_counts_overhanging :
    StructuralModel.ofDocument ⟨.c, overhangingRoot, fourLines⟩ =
        .ok ⟨.c, [overhangingUnit], fourLines.stats, []⟩ ∧
      fourLines.realBetween 2 10 = {i ∈ fourLines.codeLines | 1 ≤ 2 ∧ 2 ≤ i ∧ i ≤ 10}.card ∧
      fourLines.realBetween 3 2 = 0 ∧
      fourLines.realBetween 1 2 + fourLines.realBetween 3 10 = fourLines.realBetween 1 10 ∧
      fourLines.realBetween 1 10 = fourLines.realLines ∧
      overhangingUnit.realLines = fourLines.realBetween 2 10 ∧
      overhangingUnit.realLines ≤ overhangingUnit.span.lineCount ∧
      (UInt64.ofNat overhangingUnit.span.lineCount).toNat = overhangingUnit.span.lineCount ∧
      overhangingUnit.realLines ≤ fourLines.realLines := by
  have hmodel : StructuralModel.ofDocument ⟨.c, overhangingRoot, fourLines⟩ =
      .ok ⟨.c, [overhangingUnit], fourLines.stats, []⟩ := by cbv
  obtain ⟨hcard, -, hzero, -, hadd, hcovers, hunits⟩ := realBetween_counts fourLines
  obtain ⟨hlines, hspan, hword, hfile⟩ :=
    (hunits .c overhangingRoot _ hmodel).2 overhangingUnit (List.mem_singleton.2 rfl)
  have hlength : fourLines.totalLines = 4 := rfl
  exact ⟨hmodel, hcard 2 10, hzero 3 2 (Or.inr (by decide)),
    hadd 1 2 10 (by decide) (by decide) (by decide),
    hcovers 1 10 (by decide) fun i hpos hle => ⟨hpos, by omega⟩,
    hlines, hspan, hword (by decide), hfile⟩

end LineIndex

end CodeMetrics
