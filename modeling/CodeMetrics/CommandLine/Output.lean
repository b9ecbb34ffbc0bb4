import CodeMetrics.Golden.Suite
import CodeMetrics.Json.Printer

/-!
# What is printed

The results of a command as a table for a reader or as JSON. Text is coloured only when that is
asked for; the widths of a table count the colour codes like any other characters.
-/

namespace CodeMetrics.Output

/-! ### Colours -/

/-- How a text is shown. -/
inductive Style where
  | bold
  | yellow
  | boldRed
  | boldYellow
  | boldGreen
  deriving DecidableEq

/-- The codes of a style. -/
def Style.codes : Style → String
  | bold => "1"
  | yellow => "33"
  | boldRed => "1;31"
  | boldYellow => "1;33"
  | boldGreen => "1;32"

/-- A text in a style, if there are colours. -/
def paint (colored : Bool) (style : Style) (s : String) : String :=
  if colored then "\x1b[" ++ style.codes ++ "m" ++ s ++ "\x1b[0m" else s

/-! ### Tables -/

/-- A text at the left of a column. -/
def padRight (width : Nat) (s : String) : String :=
  s ++ String.ofList (List.replicate (width - s.length) ' ')

/-- A text at the right of a column. -/
def padLeft (width : Nat) (s : String) : String :=
  String.ofList (List.replicate (width - s.length) ' ') ++ s

/-- A line of the table of units. -/
def row (name cyclomatic nesting statements lines parameters : String) : String :=
  "  " ++ padRight 40 name ++ " " ++ padLeft 4 cyclomatic ++ " " ++ padLeft 5 nesting ++ " " ++
    padLeft 6 statements ++ " " ++ padLeft 6 lines ++ " " ++ padLeft 7 parameters ++ "\n"

/-- The line of a unit. -/
def unitRow (colored : Bool) (u : UnitMetrics) : String :=
  row (if u.longMethod then paint colored .yellow (u.name ++ " [long]") else u.name)
    (toString u.cyclomatic.toNat) (toString u.maxNesting.toNat) (toString u.statements.toNat)
    (toString u.lines.toNat) (toString u.parameters.toNat)

/-- The line under a table. -/
def summaryRow (s : FileSummary) : String :=
  "  " ++ toString s.units.toNat ++ " units, " ++ toString s.totalLines.toNat ++ " lines (" ++
    toString s.realLines.toNat ++ " code, " ++ toString s.commentLines.toNat ++
    " comment), total cyclomatic " ++ toString s.totalCyclomatic.toNat ++ ", " ++
    toString s.longMethods.toNat ++ " long\n\n"

/-- A report as a table. -/
def table (colored : Bool) (label : String) (r : Report) : String :=
  paint colored .bold label ++ " (" ++ r.language.display ++ ")\n" ++
    row "unit" "cyc" "nest" "stmts" "lines" "params" ++
    String.join (r.units.map (unitRow colored)) ++ summaryRow r.summary

/-- The beginning of a line on an error. -/
def errorMark (colored : Bool) : String := paint colored .boldRed "error:"

/-- The tables of the sources that have been analysed. -/
def tables (colored : Bool) (outcomes : List Outcome) : String :=
  String.join (outcomes.map fun o =>
    match o.result with
    | .ok r => table colored o.label r
    | .error _ => "")

/-- The errors of the sources that have not been analysed. -/
def failures (colored : Bool) (outcomes : List Outcome) : String :=
  String.join (outcomes.map fun o =>
    match o.result with
    | .ok _ => ""
    | .error e => errorMark colored ++ " " ++ o.label ++ ": " ++ e.message ++ "\n")

/-- The line on sources that have not been analysed. -/
def warning (colored : Bool) (failed total : Nat) : String :=
  paint colored .boldYellow "warning:" ++ " " ++ toString failed ++ " of " ++ toString total ++
    " sources could not be analyzed\n"

/-- The results of a suite as text. -/
def suite (colored : Bool) (r : SuiteResult) : String :=
  String.join (r.passed.names.map fun id => paint colored .boldGreen "PASS" ++ " " ++ id ++ "\n") ++
    String.join (r.failed.entries.map fun (id, mismatches) =>
      paint colored .boldRed "FAIL" ++ " " ++ id ++ "\n" ++
        String.join (mismatches.map fun m => "    " ++ m.display ++ "\n")) ++
    String.join (r.errors.entries.map fun (id, e) =>
      paint colored .boldRed "ERROR" ++ " " ++ id ++ ": " ++ e.message ++ "\n") ++
    "\n" ++ toString r.passed.size ++ " passed, " ++ toString r.failed.size ++ " failed, " ++
    toString r.errors.size ++ " errors\n"

/-! ### JSON -/

/-- What became of a source, as JSON. -/
def outcomeJson (o : Outcome) : Json :=
  .obj [("source", .str o.label),
    match o.result with
    | .ok r => ("report", r.toJson)
    | .error e => ("error", .str e.message)]

/-- A difference as JSON. -/
def mismatchJson (m : Mismatch) : Json :=
  .obj [("unit", .str m.unit), ("field", .str m.field), ("expected", .str m.expected),
    ("actual", .str m.actual)]

/-- An error of an analysis as JSON. -/
def analysisErrorJson : AnalysisError → Json
  | .parse e =>
    .obj [("Parse", .obj [("offset", .nat e.offset), ("line", .nat e.line),
      ("column", .nat e.column), ("message", .str e.fault.message)])]
  | .normalization e =>
    .obj [("Normalization", .obj [("construct", .str e.construct), ("offset", .nat e.offset),
      ("message", .str e.fault.message)])]

/-- An error of a comparison as JSON. -/
def goldenErrorJson : GoldenError → Json
  | .notFound id => .obj [("FixtureNotFound", .obj [("id", .str id)])]
  | .analysis id e => .obj [("Analysis", .obj [("id", .str id), ("source", analysisErrorJson e)])]
  | .malformed id =>
    .obj [("MalformedGolden", .obj [("id", .str id), ("message", .str "not a stored report")])]

/-- The results of a suite as JSON. -/
def suiteJson (r : SuiteResult) : Json :=
  .obj [("passed", .arr (r.passed.names.map .str)),
    ("failed", .obj (r.failed.entries.map fun (id, ms) => (id, .arr (ms.map mismatchJson)))),
    ("errors", .obj (r.errors.entries.map fun (id, e) => (id, goldenErrorJson e)))]

/-- A JSON value over several lines, the last one ended. -/
def prettyLine (v : Json) : String := v.pretty ++ "\n"

end CodeMetrics.Output
