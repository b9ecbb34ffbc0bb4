import CodeMetrics.Json.Parser
import CodeMetrics.Json.Printer
import CodeMetrics.Json.Record
import CodeMetrics.Report

/-!
# Stored reports

A report is stored as JSON, its fields in a fixed order. `Report.canonical` writes that text and
`Report.ofText?` reads it.
-/

namespace CodeMetrics

/-- A 64-bit word as JSON. -/
def Json.ofUInt64 (n : UInt64) : Json := .nat n.toNat

/-- A 32-bit word as JSON. -/
def Json.ofUInt32 (n : UInt32) : Json := .nat n.toNat

namespace Hundredths

/-- The number of hundredths as JSON. -/
def toJson (h : Hundredths) : Json := .ofUInt64 h.count

/-- Reads a number of hundredths. -/
def ofJson? (v : Json) : Option Hundredths := v.uint64?.map fun n => ⟨n⟩

end Hundredths

namespace Distribution

/-- The names of the fields. -/
def fieldNames : List String := ["min", "max", "mean", "median"]

/-- A distribution as JSON. -/
def toJson (d : Distribution) : Json :=
  .obj [("min", .ofUInt64 d.min), ("max", .ofUInt64 d.max), ("mean", d.mean.toJson),
    ("median", d.median.toJson)]

/-- Reads a distribution. -/
def ofJson? (v : Json) : Option Distribution := do
  let fields ← v.record? fieldNames
  let min ← Json.field? fields "min" Json.uint64?
  let max ← Json.field? fields "max" Json.uint64?
  let mean ← Json.field? fields "mean" Hundredths.ofJson?
  let median ← Json.field? fields "median" Hundredths.ofJson?
  return { min, max, mean, median }

end Distribution

namespace UnitMetrics

/-- The names of the fields. -/
def fieldNames : List String :=
  ["name", "kind", "start_line", "end_line", "parameters", "cyclomatic", "max_nesting",
    "statements", "lines", "real_lines", "long_method", "branches", "loops", "lambdas"]

/-- The metrics of a unit as JSON. -/
def toJson (u : UnitMetrics) : Json :=
  .obj [("name", .str u.name),
    ("kind", .str u.kind.tag),
    ("start_line", .ofUInt64 u.startLine),
    ("end_line", .ofUInt64 u.endLine),
    ("parameters", .ofUInt64 u.parameters),
    ("cyclomatic", .ofUInt32 u.cyclomatic),
    ("max_nesting", .ofUInt32 u.maxNesting),
    ("statements", .ofUInt64 u.statements),
    ("lines", .ofUInt64 u.lines),
    ("real_lines", .ofUInt64 u.realLines),
    ("long_method", .bool u.longMethod),
    ("branches", .ofUInt32 u.branches),
    ("loops", .ofUInt32 u.loops),
    ("lambdas", .ofUInt32 u.lambdas)]

/-- Reads the sort of a unit. -/
def kindOfJson? (v : Json) : Option UnitKind := v.enumName?.bind UnitKind.ofTag?

/-- Reads the metrics of a unit. -/
def ofJson? (v : Json) : Option UnitMetrics := do
  let fields ← v.record? fieldNames
  let name ← Json.field? fields "name" Json.str?
  let kind ← Json.field? fields "kind" kindOfJson?
  let startLine ← Json.field? fields "start_line" Json.uint64?
  let endLine ← Json.field? fields "end_line" Json.uint64?
  let parameters ← Json.field? fields "parameters" Json.uint64?
  let cyclomatic ← Json.field? fields "cyclomatic" Json.uint32?
  let maxNesting ← Json.field? fields "max_nesting" Json.uint32?
  let statements ← Json.field? fields "statements" Json.uint64?
  let lines ← Json.field? fields "lines" Json.uint64?
  let realLines ← Json.field? fields "real_lines" Json.uint64?
  let longMethod ← Json.field? fields "long_method" Json.bool?
  let branches ← Json.field? fields "branches" Json.uint32?
  let loops ← Json.field? fields "loops" Json.uint32?
  let lambdas ← Json.field? fields "lambdas" Json.uint32?
  return { name, kind, startLine, endLine, parameters, cyclomatic, maxNesting, statements, lines,
           realLines, longMethod, branches, loops, lambdas }

end UnitMetrics

namespace FileSummary

/-- The names of the fields. -/
def fieldNames : List String :=
  ["units", "total_lines", "real_lines", "comment_lines", "total_cyclomatic", "max_nesting",
    "long_methods", "long_parameter_lists", "message_chains", "excessive_comments",
    "comment_ratio", "parameters", "cyclomatic", "unit_real_lines"]

/-- A summary as JSON. -/
def toJson (s : FileSummary) : Json :=
  .obj [("units", .ofUInt64 s.units),
    ("total_lines", .ofUInt64 s.totalLines),
    ("real_lines", .ofUInt64 s.realLines),
    ("comment_lines", .ofUInt64 s.commentLines),
    ("total_cyclomatic", .ofUInt32 s.totalCyclomatic),
    ("max_nesting", .ofUInt32 s.maxNesting),
    ("long_methods", .ofUInt64 s.longMethods),
    ("long_parameter_lists", .ofUInt64 s.longParameterLists),
    ("message_chains", .ofUInt64 s.messageChains),
    ("excessive_comments", .bool s.excessiveComments),
    ("comment_ratio", s.commentRatio.toJson),
    ("parameters", s.parameters.toJson),
    ("cyclomatic", s.cyclomatic.toJson),
    ("unit_real_lines", s.unitRealLines.toJson)]

/-- Reads a summary. -/
def ofJson? (v : Json) : Option FileSummary := do
  let fields ← v.record? fieldNames
  let units ← Json.field? fields "units" Json.uint64?
  let totalLines ← Json.field? fields "total_lines" Json.uint64?
  let realLines ← Json.field? fields "real_lines" Json.uint64?
  let commentLines ← Json.field? fields "comment_lines" Json.uint64?
  let totalCyclomatic ← Json.field? fields "total_cyclomatic" Json.uint32?
  let maxNesting ← Json.field? fields "max_nesting" Json.uint32?
  let longMethods ← Json.field? fields "long_methods" Json.uint64?
  let longParameterLists ← Json.field? fields "long_parameter_lists" Json.uint64?
  let messageChains ← Json.field? fields "message_chains" Json.uint64?
  let excessiveComments ← Json.field? fields "excessive_comments" Json.bool?
  let commentRatio ← Json.field? fields "comment_ratio" Hundredths.ofJson?
  let parameters ← Json.field? fields "parameters" Distribution.ofJson?
  let cyclomatic ← Json.field? fields "cyclomatic" Distribution.ofJson?
  let unitRealLines ← Json.field? fields "unit_real_lines" Distribution.ofJson?
  return { units, totalLines, realLines, commentLines, totalCyclomatic, maxNesting, longMethods,
           longParameterLists, messageChains, excessiveComments, commentRatio, parameters,
           cyclomatic, unitRealLines }

end FileSummary

namespace Report

/-- The names of the fields. -/
def fieldNames : List String := ["language", "summary", "units"]

/-- A report as JSON. -/
def toJson (r : Report) : Json :=
  .obj [("language", .str r.language.tag), ("summary", r.summary.toJson),
    ("units", .arr (r.units.map UnitMetrics.toJson))]

/-- Reads a language. -/
def languageOfJson? (v : Json) : Option Language := v.enumName?.bind Language.ofTag?

/-- Reads a list of values, all of which must be readable. -/
def listOfJson? {α : Type} (read : Json → Option α) (v : Json) : Option (List α) :=
  v.arr?.bind fun es => es.mapM read

/-- Reads a report. -/
def ofJson? (v : Json) : Option Report := do
  let fields ← v.record? fieldNames
  let language ← Json.field? fields "language" languageOfJson?
  let summary ← Json.field? fields "summary" FileSummary.ofJson?
  let units ← Json.field? fields "units" (listOfJson? UnitMetrics.ofJson?)
  return { language, summary, units }

/-- **The text under which a report is stored**: one member to a line, and a line end at the
end. -/
def canonical (r : Report) : String := r.toJson.pretty ++ "\n"

/-- **The report that a text stores.** -/
def ofText? (text : String) : Option Report := (Json.parse? text).bind ofJson?

end Report

end CodeMetrics
