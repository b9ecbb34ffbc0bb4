import CodeMetrics.Report

/-!
# Differences of reports

`Report.diff` lists every field in which a report differs from the expected one: the language, the
fields of the summary, then unit by unit, by position.
-/

namespace CodeMetrics

/-- A field whose value is not the expected one. -/
structure Mismatch where
  /-- The name of the unit, or `fileUnit`. -/
  unit : String
  field : String
  expected : String
  actual : String
  deriving DecidableEq

namespace Mismatch

/-- What stands for the unit in differences of the file as a whole. -/
def fileUnit : String := "<file>"

/-- The text of a difference. -/
def display (m : Mismatch) : String :=
  m.unit ++ "." ++ m.field ++ ": expected " ++ m.expected ++ ", got " ++ m.actual

/-- The differences of two lists of named values, taken in pairs. -/
def ofFields (unit : String) : List (String × String) → List (String × String) → List Mismatch
  | (field, want) :: ws, (_, got) :: gs =>
    if want = got then ofFields unit ws gs
    else ⟨unit, field, want, got⟩ :: ofFields unit ws gs
  | _, _ => []

/-- The differences of two lists of units. A unit that only one list has is one difference. -/
def ofUnits : List UnitMetrics → List UnitMetrics → List Mismatch
  | [], [] => []
  | want :: ws, [] => ⟨want.name, "unit", "present", "missing"⟩ :: ofUnits ws []
  | [], got :: gs => ⟨got.name, "unit", "missing", "present"⟩ :: ofUnits [] gs
  | want :: ws, got :: gs => ofFields want.name want.fields got.fields ++ ofUnits ws gs

end Mismatch

/-- **The differences between an expected report and another one.** -/
def Report.diff (expected actual : Report) : List Mismatch :=
  (if expected.language = actual.language then []
    else [⟨Mismatch.fileUnit, "language", expected.language.display, actual.language.display⟩]) ++
  Mismatch.ofFields Mismatch.fileUnit expected.summary.fields actual.summary.fields ++
  Mismatch.ofUnits expected.units actual.units

end CodeMetrics
