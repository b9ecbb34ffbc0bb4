import CodeMetrics.Golden.Fixture
import CodeMetrics.Proofs.Golden.Diff
import CodeMetrics.Proofs.Json.RoundTrip

/-!
# Stored reports are read back

A report is stored as text and compared as a value. Nothing is lost on the way: the text of a report
is read as that report (`Report.ofText?_canonical`). So comparing a source with a report that was
stored for it compares two reports, and no stored report is found to be malformed
(`Fixture.compareRendered_eq`).

Of the reading of text only `Json.parse?_pretty` is used; what is left is that every record gives
back its fields.
-/

namespace CodeMetrics

namespace Json

/-! ### Records -/

theorem distinctNames_of_nodup {ms : List (String × Json)} (h : (ms.map Prod.fst).Nodup) :
    distinctNames ms = true := by
  induction ms with
  | nil => rfl
  | cons m ms ih =>
    rw [List.map_cons, List.nodup_cons] at h
    have hnew : (ms.any fun other => other.1 == m.1) = false := by
      simp only [List.any_eq_false, beq_iff_eq]
      exact fun other hother heq => h.1 (heq ▸ List.mem_map_of_mem hother)
    simp [distinctNames, hnew, ih h.2]

/-- **An object with the fields of a record gives them as they are.** -/
theorem record?_obj (names : List String) {ms : List (String × Json)}
    (hnames : ms.map Prod.fst = names) (hnodup : names.Nodup) :
    record? names (.obj ms) = some ms := by
  have hknown : (ms.filter fun m => names.contains m.1) = ms := by
    refine List.filter_eq_self.2 fun m hm => ?_
    rw [List.contains_iff_mem, ← hnames]
    exact List.mem_map_of_mem hm
  rw [record?, hknown, if_pos (distinctNames_of_nodup (hnames ▸ hnodup))]

theorem field?_cons {α : Type} (name k : String) (v : Json) (ms : List (String × Json))
    (read : Json → Option α) :
    field? ((k, v) :: ms) name read = if name = k then read v else field? ms name read := by
  unfold field?
  rw [List.lookup_cons]
  by_cases h : name = k
  · simp [h]
  · simp [h, beq_false_of_ne h]

-- stated for `>>=` itself: unfolding it to `Option.bind` makes `simp` enter every continuation twice
theorem some_bind {α β : Type} (a : α) (f : α → Option β) : (some a >>= f) = f a := rfl

@[simp] theorem uint64?_ofUInt64 (n : UInt64) : (Json.ofUInt64 n).uint64? = some n := by
  simp [ofUInt64, uint64?, UInt64.toNat_lt_size]

@[simp] theorem uint32?_ofUInt32 (n : UInt32) : (Json.ofUInt32 n).uint32? = some n := by
  simp [ofUInt32, uint32?, UInt32.toNat_lt_size]

end Json

open Json

@[simp] theorem Hundredths.ofJson?_toJson (h : Hundredths) : ofJson? h.toJson = some h := by
  simp [ofJson?, toJson]

@[simp] theorem Distribution.ofJson?_toJson (d : Distribution) : ofJson? d.toJson = some d := by
  rw [ofJson?, toJson, record?_obj fieldNames rfl (by decide)]
  simp only [field?_cons, String.reduceEq, if_true, if_false, uint64?_ofUInt64,
    Hundredths.ofJson?_toJson, some_bind, Option.pure_def]

@[simp] theorem UnitMetrics.kindOfJson?_tag (k : UnitKind) : kindOfJson? (.str k.tag) = some k := by
  simp [kindOfJson?, enumName?, UnitKind.ofTag?_tag]

@[simp] theorem UnitMetrics.ofJson?_toJson (u : UnitMetrics) : ofJson? u.toJson = some u := by
  rw [ofJson?, toJson, record?_obj fieldNames rfl (by decide)]
  simp only [field?_cons, String.reduceEq, if_true, if_false, str?, bool?, kindOfJson?_tag,
    uint64?_ofUInt64, uint32?_ofUInt32, some_bind, Option.pure_def]

@[simp] theorem FileSummary.ofJson?_toJson (s : FileSummary) : ofJson? s.toJson = some s := by
  rw [ofJson?, toJson, record?_obj fieldNames rfl (by decide)]
  simp only [field?_cons, String.reduceEq, if_true, if_false, bool?, Hundredths.ofJson?_toJson,
    Distribution.ofJson?_toJson, uint64?_ofUInt64, uint32?_ofUInt32, some_bind, Option.pure_def]

theorem Language.ofTag?_tag (l : Language) : ofTag? l.tag = some l := by
  cases l <;> rfl

namespace Report

theorem listOfJson?_map {α : Type} {read : Json → Option α} {write : α → Json}
    (h : ∀ a, read (write a) = some a) (as : List α) :
    listOfJson? read (.arr (as.map write)) = some as := by
  rw [listOfJson?, arr?, Option.bind_some]
  induction as with
  | nil => rfl
  | cons a as ih => simp [h, ih]

theorem languageOfJson?_tag (l : Language) : languageOfJson? (.str l.tag) = some l := by
  simp [languageOfJson?, enumName?, Language.ofTag?_tag]

theorem ofJson?_toJson (r : Report) : ofJson? r.toJson = some r := by
  rw [ofJson?, toJson, record?_obj fieldNames rfl (by decide)]
  simp only [field?_cons, String.reduceEq, if_true, if_false, languageOfJson?_tag,
    FileSummary.ofJson?_toJson, listOfJson?_map UnitMetrics.ofJson?_toJson, some_bind,
    Option.pure_def]

end Report

/-! ### Reports are written without other numbers -/

attribute [simp] Plain.bool Plain.nat Plain.str

@[simp] theorem Json.plain_ofUInt64 (n : UInt64) : (Json.ofUInt64 n).Plain := .nat _

@[simp] theorem Json.plain_ofUInt32 (n : UInt32) : (Json.ofUInt32 n).Plain := .nat _

@[simp] theorem Hundredths.plain_toJson (h : Hundredths) : h.toJson.Plain := .nat _

@[simp] theorem Distribution.plain_toJson (d : Distribution) : d.toJson.Plain := .obj (by simp)

@[simp] theorem UnitMetrics.plain_toJson (u : UnitMetrics) : u.toJson.Plain := .obj (by simp)

@[simp] theorem FileSummary.plain_toJson (s : FileSummary) : s.toJson.Plain := .obj (by simp)

theorem Report.plain_toJson (r : Report) : r.toJson.Plain := by
  have hunits : (Json.arr (r.units.map UnitMetrics.toJson)).Plain := .arr (by simp)
  exact .obj (by simp [hunits])

/-- **A stored report is read as the report that was stored.** -/
theorem Report.ofText?_canonical (r : Report) : ofText? r.canonical = some r := by
  rw [ofText?, canonical, Json.parse?_pretty r.plain_toJson, Option.bind_some, ofJson?_toJson]

/-! ### Comparing with a stored report -/

theorem Comparison.ofReports_eq (id : String) (e a : Report) :
    ofReports id e a = if e = a then .same else .different id (e.diff a) := by
  unfold ofReports
  by_cases h : e = a
  · rw [(Report.diff_eq_nil_iff e a).2 h, if_pos h]
  · rw [if_neg h]
    split
    · next hnil => exact absurd ((Report.diff_eq_nil_iff e a).1 hnil) h
    · rfl

/-- Stores the report on a source under one configuration, and compares the source with it under
another. -/
def Fixture.compareRendered (stored current : Config) (id : String) (language : Language)
    (source : String) : Except GoldenError Comparison := do
  let text ← renderGolden stored id language source
  Fixture.compare current ⟨id, language, source, text⟩

section Compare

variable (stored current : Config) (id : String) (language : Language) (source : String)

theorem renderGolden_eq :
    renderGolden stored id language source =
      Report.canonical <$> (analyze stored language source).mapError (.analysis id) := by
  unfold renderGolden
  cases analyze stored language source <;> rfl

/-- A source is compared with the report whose text is stored for it. -/
theorem Fixture.compare_canonical (expected : Report) :
    Fixture.compare current ⟨id, language, source, expected.canonical⟩ = (do
      let actual ← (analyze current language source).mapError (.analysis id)
      return .ofReports id expected actual) := by
  unfold Fixture.compare
  rw [Report.ofText?_canonical]
  cases analyze current language source <;> rfl

theorem Fixture.compareRendered_eq_ofReports :
    compareRendered stored current id language source = (do
      let expected ← (analyze stored language source).mapError (.analysis id)
      let actual ← (analyze current language source).mapError (.analysis id)
      return .ofReports id expected actual) := by
  rw [compareRendered, renderGolden_eq, bind_map_left]
  exact congrArg _ (funext fun expected => compare_canonical current id language source expected)

end Compare

/-- What fails only for want of an analysis does not fail on a stored report. -/
theorem GoldenError.analysis_ne_malformed (rendered computed : Except AnalysisError Report)
    (f : Report → Report → Comparison) (id i : String) :
    (do
      let expected ← rendered.mapError (GoldenError.analysis id)
      let actual ← computed.mapError (GoldenError.analysis id)
      return f expected actual) ≠ .error (.malformed i) := by
  cases rendered <;> cases computed <;> intro h <;> cases h

/-- **Comparing a source with a stored report compares the two reports on it.** Every report is read
from its text as it is; so the comparison finds the same exactly if the reports on the source under
the two configurations are equal, and otherwise their differences, of which there are some. It fails
only if the source cannot be analysed, and never on the stored report. -/
theorem Fixture.compareRendered_eq :
    (∀ r : Report, Report.ofText? r.canonical = some r) ∧
      (∀ (stored current : Config) (id : String) (language : Language) (source : String),
        compareRendered stored current id language source = (do
          let expected ← (analyze stored language source).mapError (.analysis id)
          let actual ← (analyze current language source).mapError (.analysis id)
          return if expected = actual then .same
            else .different id (expected.diff actual)) ∧
        ∀ i, compareRendered stored current id language source ≠ .error (.malformed i)) ∧
      ∀ expected actual : Report, expected.diff actual = [] ↔ expected = actual := by
  refine ⟨Report.ofText?_canonical, fun stored current id language source => ⟨?_, ?_⟩,
    Report.diff_eq_nil_iff⟩
  · simp only [← Comparison.ofReports_eq]
    exact compareRendered_eq_ofReports stored current id language source
  · rw [compareRendered_eq_ofReports]
    exact GoldenError.analysis_ne_malformed _ _ (.ofReports id) id

end CodeMetrics
