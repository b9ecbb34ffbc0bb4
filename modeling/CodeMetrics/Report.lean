import CodeMetrics.Distribution
import CodeMetrics.Language
import CodeMetrics.StructuralUnit

/-!
# Reports

The metrics of a file: those of each unit, in source order, and a summary. Counts are words of the
width under which they are stored.

`UnitMetrics.fields` and `FileSummary.fields` give the values of all fields as text, in the order
in which they are stored and compared.
-/

namespace CodeMetrics

/-- The metrics of one unit. -/
structure UnitMetrics where
  name : String
  kind : UnitKind
  startLine : UInt64
  endLine : UInt64
  parameters : UInt64
  cyclomatic : UInt32
  maxNesting : UInt32
  statements : UInt64
  lines : UInt64
  realLines : UInt64
  longMethod : Bool
  branches : UInt32
  loops : UInt32
  lambdas : UInt32
  deriving DecidableEq, Inhabited

/-- The text of a truth value. -/
def boolText (b : Bool) : String := if b then "true" else "false"

/-- The names and values of the fields. -/
def UnitMetrics.fields (u : UnitMetrics) : List (String × String) :=
  [("name", u.name),
    ("kind", u.kind.tag),
    ("start_line", toString u.startLine.toNat),
    ("end_line", toString u.endLine.toNat),
    ("parameters", toString u.parameters.toNat),
    ("cyclomatic", toString u.cyclomatic.toNat),
    ("max_nesting", toString u.maxNesting.toNat),
    ("statements", toString u.statements.toNat),
    ("lines", toString u.lines.toNat),
    ("real_lines", toString u.realLines.toNat),
    ("long_method", boolText u.longMethod),
    ("branches", toString u.branches.toNat),
    ("loops", toString u.loops.toNat),
    ("lambdas", toString u.lambdas.toNat)]

/-- The metrics of a file as a whole. -/
structure FileSummary where
  units : UInt64
  totalLines : UInt64
  realLines : UInt64
  commentLines : UInt64
  totalCyclomatic : UInt32
  maxNesting : UInt32
  longMethods : UInt64
  /-- The number of units with a long parameter list. -/
  longParameterLists : UInt64
  /-- The number of message chains. -/
  messageChains : UInt64
  excessiveComments : Bool
  /-- Comment lines per line of code. -/
  commentRatio : Hundredths
  parameters : Distribution
  cyclomatic : Distribution
  unitRealLines : Distribution
  deriving DecidableEq, Inhabited

/-- The names and values of the fields. -/
def FileSummary.fields (s : FileSummary) : List (String × String) :=
  [("units", toString s.units.toNat),
    ("total_lines", toString s.totalLines.toNat),
    ("real_lines", toString s.realLines.toNat),
    ("comment_lines", toString s.commentLines.toNat),
    ("total_cyclomatic", toString s.totalCyclomatic.toNat),
    ("max_nesting", toString s.maxNesting.toNat),
    ("long_methods", toString s.longMethods.toNat),
    ("long_parameter_lists", toString s.longParameterLists.toNat),
    ("message_chains", toString s.messageChains.toNat),
    ("excessive_comments", boolText s.excessiveComments),
    ("comment_ratio", s.commentRatio.display)] ++
  s.parameters.fields "parameters" ++ s.cyclomatic.fields "cyclomatic" ++
  s.unitRealLines.fields "unit_real_lines"

/-- The report on a file. -/
structure Report where
  language : Language
  summary : FileSummary
  /-- The metrics of the units, by where they begin. -/
  units : List UnitMetrics
  deriving DecidableEq, Inhabited

namespace Report

/-- The metrics of the first unit with a name. -/
def unit? (r : Report) (name : String) : Option UnitMetrics := r.units.find? (·.name == name)

/-- The metrics of the long units. -/
def longMethods (r : Report) : List UnitMetrics := r.units.filter (·.longMethod)

end Report

end CodeMetrics
