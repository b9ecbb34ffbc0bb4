import CodeMetrics.Report
import Mathlib.Logic.Function.Basic

/-!
# The fields of reports

A field of a record is a value of some type and a way to write it. What makes a comparison of
written values a comparison of the values is that no two of them are written alike, so a
`ReportField` carries the proof of it.

`UnitMetrics.table` and `FileSummary.table` list the fields of the two records of a report, and
`Report.table` those of the report itself. The texts that are compared are those of the tables
(`UnitMetrics.fields_eq`, `FileSummary.fields_eq`), and the tables are complete: records that agree
on them are equal (`UnitMetrics.ext_table`, `FileSummary.ext_table`, `Report.ext_table`).
-/

namespace CodeMetrics

/-! ### Ways of writing -/

theorem toString_injective : Function.Injective fun n : Nat => toString n := by
  intro m n h
  have hdigits := congrArg (fun s => Nat.ofDigitChars 10 s.toList 0) h
  simpa using hdigits

theorem boolText_injective : Function.Injective boolText := by
  unfold Function.Injective
  decide

theorem UnitKind.tag_injective : Function.Injective UnitKind.tag := by
  intro k l h
  have htag := congrArg ofTag? h
  rw [ofTag?_tag, ofTag?_tag] at htag
  exact Option.some.inj htag

theorem Language.display_injective : Function.Injective Language.display := by
  intro k l h
  cases k <;> cases l <;> first | rfl | simp [display] at h

namespace Hundredths

theorem toList_twoDigits {n : Nat} (h : n < 100) :
    (twoDigits n).toList = [Nat.digitChar (n / 10), Nat.digitChar (n % 10)] := by
  unfold twoDigits
  split
  · next hn =>
    rw [Nat.div_eq_of_lt hn, Nat.mod_eq_of_lt hn]
    simp [Nat.toDigits_of_lt_base hn]
  · next hn =>
    have hdigits : Nat.toDigits 10 n = Nat.toDigits 10 (n / 10) ++ [Nat.digitChar (n % 10)] :=
      Nat.toDigits_of_base_le (by decide) (by omega)
    simp [hdigits, Nat.toDigits_of_lt_base (by omega : n / 10 < 10)]

theorem twoDigits_injective {m n : Nat} (hm : m < 100) (hn : n < 100)
    (h : twoDigits m = twoDigits n) : m = n := by
  have hvalue : ∀ k < 100, Nat.ofDigitChars 10 (twoDigits k).toList 0 = k := fun k hk => by
    rw [toList_twoDigits hk, Nat.ofDigitChars_cons_digitChar_of_lt_ten (by omega),
      Nat.ofDigitChars_cons_digitChar_of_lt_ten (by omega), Nat.ofDigitChars_nil]
    omega
  rw [← hvalue m hm, ← hvalue n hn, h]

/-- The two decimals have a fixed width, so the whole part and the decimals can be told apart. -/
theorem display_injective : Function.Injective display := by
  intro g h heq
  have hlists := congrArg String.toList heq
  simp only [display, String.toList_append] at hlists
  have hg := toList_twoDigits (Nat.mod_lt g.count.toNat (by decide : 0 < 100))
  have hh := toList_twoDigits (Nat.mod_lt h.count.toNat (by decide : 0 < 100))
  obtain ⟨hwhole, hpart⟩ := List.append_inj' hlists (by rw [hg, hh]; rfl)
  obtain ⟨hwhole, -⟩ := List.append_inj' hwhole rfl
  have hdiv := toString_injective (String.toList_inj.1 hwhole)
  have hmod := twoDigits_injective (Nat.mod_lt _ (by decide)) (Nat.mod_lt _ (by decide))
    (String.toList_inj.1 hpart)
  have hcount : g.count.toNat = h.count.toNat := by
    rw [← Nat.div_add_mod g.count.toNat 100, ← Nat.div_add_mod h.count.toNat 100, hmod]
    exact congrArg (100 * · + _) hdiv
  cases g
  cases h
  exact congrArg _ (UInt64.toNat_inj.1 hcount)

end Hundredths

/-! ### Fields -/

/-- **A field of a record**: its name, its value, and how the value is written. -/
structure ReportField (α : Type) where
  name : String
  {Value : Type}
  [decEq : DecidableEq Value]
  get : α → Value
  write : Value → String
  write_injective : Function.Injective write

namespace ReportField

variable {α β : Type}

attribute [instance] ReportField.decEq

/-- The text of the value of a field. -/
def text (f : ReportField α) (a : α) : String := f.write (f.get a)

theorem text_eq_iff (f : ReportField α) (a b : α) : f.text a = f.text b ↔ f.get a = f.get b :=
  f.write_injective.eq_iff

/-- A field that is a text itself. -/
def ofString (name : String) (get : α → String) : ReportField α :=
  { name, get, write := id, write_injective := Function.injective_id }

/-- A truth value. -/
def ofBool (name : String) (get : α → Bool) : ReportField α :=
  { name, get, write := boolText, write_injective := boolText_injective }

/-- A sort of unit. -/
def ofUnitKind (name : String) (get : α → UnitKind) : ReportField α :=
  { name, get, write := UnitKind.tag, write_injective := UnitKind.tag_injective }

/-- A number of 64 bits. -/
def ofUInt64 (name : String) (get : α → UInt64) : ReportField α :=
  { name, get, write := fun n => toString n.toNat,
    write_injective := toString_injective.comp fun _ _ => UInt64.toNat_inj.1 }

/-- A number of 32 bits. -/
def ofUInt32 (name : String) (get : α → UInt32) : ReportField α :=
  { name, get, write := fun n => toString n.toNat,
    write_injective := toString_injective.comp fun _ _ => UInt32.toNat_inj.1 }

/-- A language. -/
def ofLanguage (name : String) (get : α → Language) : ReportField α :=
  { name, get, write := Language.display, write_injective := Language.display_injective }

/-- A number of hundredths. -/
def ofHundredths (name : String) (get : α → Hundredths) : ReportField α :=
  { name, get, write := Hundredths.display, write_injective := Hundredths.display_injective }

/-- A field of a part of a record. -/
def within (part : β → α) (f : ReportField α) : ReportField β :=
  { name := f.name, get := fun b => f.get (part b), write := f.write,
    write_injective := f.write_injective }

/-- The names and the texts of the fields of a table. -/
def texts (table : List (ReportField α)) (a : α) : List (String × String) :=
  table.map fun f => (f.name, f.text a)

/-- Whether two records agree on the fields of a table. -/
def Agree (table : List (ReportField α)) (a b : α) : Prop := ∀ f ∈ table, f.get a = f.get b

theorem agree_append {s t : List (ReportField α)} {a b : α} :
    Agree (s ++ t) a b ↔ Agree s a b ∧ Agree t a b := List.forall_mem_append

theorem agree_map_within {part : β → α} {table : List (ReportField α)} {a b : β}
    (h : Agree (table.map (within part)) a b) : Agree table (part a) (part b) := fun f hf =>
  h (f.within part) (List.mem_map_of_mem hf)

end ReportField

open ReportField

/-! ### The tables -/

/-- **The fields of the metrics of a unit.** -/
def UnitMetrics.table : List (ReportField UnitMetrics) :=
  [ofString "name" name, ofUnitKind "kind" kind, ofUInt64 "start_line" startLine,
    ofUInt64 "end_line" endLine, ofUInt64 "parameters" parameters,
    ofUInt32 "cyclomatic" cyclomatic, ofUInt32 "max_nesting" maxNesting,
    ofUInt64 "statements" statements, ofUInt64 "lines" lines, ofUInt64 "real_lines" realLines,
    ofBool "long_method" longMethod, ofUInt32 "branches" branches, ofUInt32 "loops" loops,
    ofUInt32 "lambdas" lambdas]

/-- The fields of a distribution, each named after what the distribution is of. -/
def Distribution.table (of : String) : List (ReportField Distribution) :=
  [ofUInt64 (of ++ ".min") min, ofUInt64 (of ++ ".max") max, ofHundredths (of ++ ".mean") mean,
    ofHundredths (of ++ ".median") median]

/-- **The fields of a summary**, those of its distributions included. -/
def FileSummary.table : List (ReportField FileSummary) :=
  [ofUInt64 "units" units, ofUInt64 "total_lines" totalLines, ofUInt64 "real_lines" realLines,
    ofUInt64 "comment_lines" commentLines, ofUInt32 "total_cyclomatic" totalCyclomatic,
    ofUInt32 "max_nesting" maxNesting, ofUInt64 "long_methods" longMethods,
    ofUInt64 "long_parameter_lists" longParameterLists, ofUInt64 "message_chains" messageChains,
    ofBool "excessive_comments" excessiveComments, ofHundredths "comment_ratio" commentRatio] ++
  (Distribution.table "parameters").map (within parameters) ++
  (Distribution.table "cyclomatic").map (within cyclomatic) ++
  (Distribution.table "unit_real_lines").map (within unitRealLines)

/-- **The fields of a report** apart from its units: the language and the fields of the summary. -/
def Report.table : List (ReportField Report) :=
  ofLanguage "language" language :: FileSummary.table.map (within summary)

theorem UnitMetrics.fields_eq (u : UnitMetrics) : u.fields = texts table u := rfl

theorem FileSummary.fields_eq (s : FileSummary) : s.fields = texts table s := rfl

/-- **Metrics of units that agree on the table are equal.** -/
theorem UnitMetrics.ext_table {u v : UnitMetrics} (h : Agree table u v) : u = v := by
  cases u
  cases v
  simpa [Agree, table, ofString, ofUnitKind, ofUInt64, ofUInt32, ofBool] using h

theorem Distribution.ext_table {of : String} {d e : Distribution} (h : Agree (table of) d e) :
    d = e := by
  cases d
  cases e
  simpa [Agree, table, ofUInt64, ofHundredths] using h

/-- **Summaries that agree on the table are equal.** -/
theorem FileSummary.ext_table {s t : FileSummary} (h : Agree table s t) : s = t := by
  obtain ⟨h, hlines⟩ := agree_append.1 h
  obtain ⟨h, hcyclomatic⟩ := agree_append.1 h
  obtain ⟨h, hparameters⟩ := agree_append.1 h
  have hlines := Distribution.ext_table (agree_map_within hlines)
  have hcyclomatic := Distribution.ext_table (agree_map_within hcyclomatic)
  have hparameters := Distribution.ext_table (agree_map_within hparameters)
  cases s
  cases t
  simp_all [Agree, ofUInt64, ofUInt32, ofBool, ofHundredths]

/-- **Reports with the same units that agree on the table are equal.** -/
theorem Report.ext_table {r s : Report} (h : Agree table r s) (hu : r.units = s.units) : r = s := by
  obtain ⟨hl, h⟩ := List.forall_mem_cons.1 h
  have hs := FileSummary.ext_table (agree_map_within h)
  cases r
  cases s
  simp only [Report.mk.injEq]
  exact ⟨hl, hs, hu⟩

theorem Report.agree_table {r s : Report} (hl : r.language = s.language)
    (hs : r.summary = s.summary) : Agree table r s := by
  refine List.forall_mem_cons.2 ⟨hl, fun f hf => ?_⟩
  obtain ⟨g, -, rfl⟩ := List.mem_map.1 hf
  exact congrArg g.get hs

/-- The fields of a table have different names. -/
theorem UnitMetrics.nodup_names : (table.map ReportField.name).Nodup := by decide

theorem Report.nodup_names : (table.map ReportField.name).Nodup := by decide

end CodeMetrics
