import CodeMetrics.Golden.Mismatch
import CodeMetrics.Proofs.Report.Fields
import Mathlib.Data.List.Nodup

/-!
# Differences of reports are exact

Reports are compared by the texts of their fields, taken in pairs. This file says what the
comparison finds in terms of the values: a difference for every field of the tables
`Report.table` and `UnitMetrics.table` whose values differ (`ReportField.mismatch?`), and one for
every position at which only one of the reports has a unit (`Mismatch.atPosition`).

`Report.diff_exact` collects what follows: there is no difference exactly between equal reports, one
field that changes is one difference, and differences the other way round are the same ones with the
two sides exchanged.
-/

namespace CodeMetrics

open ReportField

/-! ### Records -/

namespace ReportField

variable {α : Type}

/-- The difference of two records in a field, if their values differ. -/
def mismatch? (unit : String) (expected actual : α) (f : ReportField α) : Option Mismatch :=
  if f.get expected = f.get actual then none
  else some ⟨unit, f.name, f.text expected, f.text actual⟩

/-- **Texts are compared as the values are.** -/
theorem ofFields_texts (unit : String) (table : List (ReportField α)) (e a : α) :
    Mismatch.ofFields unit (texts table e) (texts table a) =
      table.filterMap (mismatch? unit e a) := by
  induction table with
  | nil => rfl
  | cons f table ih =>
    simp only [texts, List.map_cons, Mismatch.ofFields, List.filterMap_cons, mismatch?,
      f.text_eq_iff] at ih ⊢
    split
    · exact ih
    · exact congrArg _ ih

theorem filterMap_mismatch?_eq_nil {unit : String} {table : List (ReportField α)} {e a : α} :
    table.filterMap (mismatch? unit e a) = [] ↔ Agree table e a := by
  simp [Agree, mismatch?]

/-- Two records differ in one field of a table, and in no other. -/
structure ChangesOnly (table : List (ReportField α)) (f : ReportField α) (e a : α) : Prop where
  mem : f ∈ table
  ne : f.get e ≠ f.get a
  agree : ∀ g ∈ table, g.name ≠ f.name → g.get e = g.get a

/-- **One field that changes is one difference.** -/
theorem ChangesOnly.filterMap_eq {table : List (ReportField α)} {f : ReportField α} {e a : α}
    (hnames : (table.map name).Nodup) (h : ChangesOnly table f e a) (unit : String) :
    table.filterMap (mismatch? unit e a) = [⟨unit, f.name, f.text e, f.text a⟩] := by
  obtain ⟨before, after, rfl⟩ := List.append_of_mem h.mem
  rw [List.map_append, List.map_cons, List.nodup_middle, List.nodup_cons] at hnames
  -- by their names, the fields around `f` are not `f`
  have hagree : ∀ g ∈ before ++ after, g.get e = g.get a := fun g hg => by
    refine h.agree g ?_ fun hname => hnames.1 ?_
    · rcases List.mem_append.1 hg with hg | hg <;> simp [hg]
    · rw [← hname, ← List.map_append]
      exact List.mem_map_of_mem hg
  obtain ⟨hbefore, hafter⟩ := agree_append.1 hagree
  rw [List.filterMap_append, List.filterMap_cons, filterMap_mismatch?_eq_nil.2 hbefore,
    filterMap_mismatch?_eq_nil.2 hafter, mismatch?, if_neg h.ne]
  rfl

end ReportField

namespace Mismatch

/-- The field of a difference with its two values. -/
def values (m : Mismatch) : String × String × String := (m.field, m.expected, m.actual)

/-- The difference with its two sides exchanged. -/
def swapped (m : Mismatch) : Mismatch := { m with expected := m.actual, actual := m.expected }

theorem map_values_filterMap {α : Type} (u v : String) (table : List (ReportField α)) (e a : α) :
    (table.filterMap (mismatch? u a e)).map values =
      (table.filterMap (mismatch? v e a)).map fun m => m.swapped.values := by
  rw [List.map_filterMap, List.map_filterMap]
  refine congrArg (List.filterMap · table) (funext fun f => ?_)
  unfold mismatch?
  by_cases h : f.get e = f.get a
  · rw [if_pos h, if_pos h.symm]
    rfl
  · rw [if_neg h, if_neg (Ne.symm h)]
    rfl

/-! ### Units -/

/-- **The differences at one position** of two lists of units. -/
def atPosition : Option UnitMetrics → Option UnitMetrics → List Mismatch
  | some want, some got => UnitMetrics.table.filterMap (mismatch? want.name want got)
  | some want, none => [⟨want.name, "unit", "present", "missing"⟩]
  | none, some got => [⟨got.name, "unit", "missing", "present"⟩]
  | none, none => []

theorem ofUnits_eq (es as : List UnitMetrics) :
    ofUnits es as = (List.zipWithAll atPosition es as).flatten := by
  fun_induction ofUnits es as with
  | case1 => rfl
  | case2 want ws ih => simp [ih, atPosition]
  | case3 got gs ih => simp [ih, atPosition]
  | case4 want ws got gs ih =>
    rw [ih, List.zipWithAll_cons_cons, List.flatten_cons, UnitMetrics.fields_eq,
      UnitMetrics.fields_eq, ofFields_texts]
    rfl

theorem ofUnits_eq_nil {es as : List UnitMetrics} : ofUnits es as = [] ↔ es = as := by
  fun_induction ofUnits es as with
  | case1 => simp
  | case2 want ws ih => simp
  | case3 got gs ih => simp
  | case4 want ws got gs ih =>
    rw [List.append_eq_nil_iff, ih, UnitMetrics.fields_eq, UnitMetrics.fields_eq, ofFields_texts,
      filterMap_mismatch?_eq_nil, List.cons.injEq]
    refine and_congr_left fun _ => ⟨UnitMetrics.ext_table, ?_⟩
    rintro rfl f -
    rfl

/-- A unit that changes is compared with what it was, and nothing else is found. -/
theorem ofUnits_set {es : List UnitMetrics} {i : Nat} {u : UnitMetrics} (h : es[i]? = some u)
    (v : UnitMetrics) :
    ofUnits es (es.set i v) = UnitMetrics.table.filterMap (mismatch? u.name u v) := by
  induction es generalizing i with
  | nil => simp at h
  | cons e es ih =>
    cases i with
    | zero =>
      obtain rfl : e = u := by simpa using h
      rw [List.set_cons_zero, ofUnits, ofUnits_eq_nil.2 rfl, List.append_nil,
        UnitMetrics.fields_eq, UnitMetrics.fields_eq, ofFields_texts]
    | succ i =>
      have hnone : ofFields e.name e.fields e.fields = [] := by
        rw [UnitMetrics.fields_eq, ofFields_texts]
        exact filterMap_mismatch?_eq_nil.2 fun _ _ => rfl
      rw [List.set_cons_succ, ofUnits, hnone, List.nil_append]
      exact ih (by simpa using h)

theorem map_values_ofUnits (es as : List UnitMetrics) :
    (ofUnits as es).map values = (ofUnits es as).map fun m => m.swapped.values := by
  fun_induction ofUnits es as with
  | case1 => simp [ofUnits]
  | case2 want ws ih => simpa [ofUnits, values, swapped] using ih
  | case3 got gs ih => simpa [ofUnits, values, swapped] using ih
  | case4 want ws got gs ih =>
    rw [ofUnits, List.map_append, List.map_append, ih, UnitMetrics.fields_eq,
      UnitMetrics.fields_eq, ofFields_texts, ofFields_texts,
      map_values_filterMap _ want.name]

end Mismatch

/-! ### Reports -/

namespace Report

open Mismatch

theorem diff_eq (e a : Report) :
    e.diff a = table.filterMap (mismatch? fileUnit e a) ++ ofUnits e.units a.units := by
  have hlanguage : (if e.language = a.language then []
      else [⟨fileUnit, "language", e.language.display, a.language.display⟩]) =
      (mismatch? fileUnit e a (ofLanguage "language" language)).toList := by
    by_cases h : e.language = a.language
    · have hget : (ofLanguage "language" language).get e =
        (ofLanguage "language" language).get a := h
      rw [mismatch?, if_pos h, if_pos hget]
      rfl
    · have hget : (ofLanguage "language" language).get e ≠
        (ofLanguage "language" language).get a := h
      rw [mismatch?, if_neg h, if_neg hget]
      rfl
  have hsummary : (FileSummary.table.map (within summary)).filterMap (mismatch? fileUnit e a) =
      FileSummary.table.filterMap (mismatch? fileUnit e.summary a.summary) := by
    rw [List.filterMap_map]
    rfl
  rw [diff, FileSummary.fields_eq, FileSummary.fields_eq, ofFields_texts, hlanguage, ← hsummary,
    table, List.filterMap_cons]
  cases mismatch? fileUnit e a (ofLanguage "language" language) <;> rfl

theorem diff_eq_nil_iff (e a : Report) : e.diff a = [] ↔ e = a := by
  rw [diff_eq, List.append_eq_nil_iff, filterMap_mismatch?_eq_nil, ofUnits_eq_nil]
  constructor
  · rintro ⟨htable, hunits⟩
    exact ext_table htable hunits
  · rintro rfl
    exact ⟨fun _ _ => rfl, rfl⟩

/-- **Differences of reports are exact.** In the order of the fields and the units, they are one for
each field whose values differ, and one for each unit that only one report has. So equal reports,
and no others, have none; one field that changes, of the file or of a unit, is one difference; and
the other way round the same fields differ, with their values exchanged. -/
theorem diff_exact (e a : Report) :
    e.diff a = table.filterMap (mismatch? fileUnit e a) ++
        (List.zipWithAll atPosition e.units a.units).flatten ∧
      (e.diff a = [] ↔ e = a) ∧
      (∀ f, ChangesOnly table f e a → e.units = a.units →
        e.diff a = [⟨fileUnit, f.name, f.text e, f.text a⟩]) ∧
      (∀ i u v f, e.units[i]? = some u → ChangesOnly UnitMetrics.table f u v →
        e.diff { e with units := e.units.set i v } = [⟨u.name, f.name, f.text u, f.text v⟩]) ∧
      (a.diff e).map values = (e.diff a).map fun m => m.swapped.values := by
  refine ⟨?_, diff_eq_nil_iff e a, fun f hf hunits => ?_, fun i u v f hi hf => ?_, ?_⟩
  · rw [diff_eq, ofUnits_eq]
  · rw [diff_eq, ofUnits_eq_nil.2 hunits, List.append_nil, hf.filterMap_eq nodup_names]
  · have hagree : Agree table e { e with units := e.units.set i v } := agree_table rfl rfl
    rw [diff_eq, filterMap_mismatch?_eq_nil.2 hagree, List.nil_append, ofUnits_set hi,
      hf.filterMap_eq UnitMetrics.nodup_names]
  · rw [diff_eq, diff_eq, List.map_append, List.map_append, map_values_ofUnits,
      map_values_filterMap fileUnit fileUnit]

/-- The metrics of a unit with some cyclomatic complexity. -/
def unitOfComplexity (n : UInt32) : UnitMetrics := { (default : UnitMetrics) with cyclomatic := n }

/-- A report with one unit, of some cyclomatic complexity, and some number of comment lines. -/
def reportOf (n : UInt32) (comments : UInt64) : Report where
  language := .c
  summary := { (default : FileSummary) with commentLines := comments }
  units := [unitOfComplexity n]

theorem diff_exact_reportOf :
    (reportOf 1 3).diff (reportOf 1 5) = [⟨"<file>", "comment_lines", "3", "5"⟩] ∧
      (reportOf 1 3).diff (reportOf 2 3) = [⟨"", "cyclomatic", "1", "2"⟩] := by
  obtain ⟨-, -, hfile, -⟩ := diff_exact (reportOf 1 3) (reportOf 1 5)
  obtain ⟨-, -, -, hunit, -⟩ := diff_exact (reportOf 1 3) (reportOf 1 3)
  constructor
  · refine hfile ((ofUInt64 "comment_lines" FileSummary.commentLines).within summary) ?_ rfl
    constructor
    · simp [table, FileSummary.table]
    · decide
    · simp [table, FileSummary.table, Distribution.table, within, ofUInt64, ofUInt32, ofBool,
        ofHundredths, ofLanguage, reportOf]
  · refine hunit 0 (unitOfComplexity 1) (unitOfComplexity 2)
      (ofUInt32 "cyclomatic" UnitMetrics.cyclomatic) rfl ?_
    constructor
    · simp [UnitMetrics.table]
    · decide
    · simp [UnitMetrics.table, ofString, ofUnitKind, ofUInt64, ofUInt32, ofBool, unitOfComplexity]

end Report

end CodeMetrics
