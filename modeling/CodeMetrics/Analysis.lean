import CodeMetrics.Metrics

/-!
# Analysis of a source

From text to report: parse, build the structural model, compute the metrics.
-/

namespace CodeMetrics

/-- Why a source could not be analysed. -/
inductive AnalysisError where
  | parse (e : ParseError)
  | normalization (e : NormalizationError)
  deriving DecidableEq

/-- The text shown for an error. -/
def AnalysisError.message : AnalysisError → String
  | parse e => e.message
  | normalization e => e.message

/-- The report on a parsed document. -/
def Document.analyze (config : Config) (d : Document) : Except AnalysisError Report :=
  match StructuralModel.ofDocument d with
  | .error e => .error (.normalization e)
  | .ok model => .ok (model.report config)

/-- **The report on a source text.** -/
def analyze (config : Config) (language : Language) (text : String) :
    Except AnalysisError Report :=
  match Document.parse language text with
  | .error e => .error (.parse e)
  | .ok d => d.analyze config

/-! ### Batches -/

/-- A source text, with the path it was read from if it was read from a file. -/
structure Source where
  language : Language
  text : String
  origin : Option String := none

/-- What a source is called in output: its path, if it has one. -/
def Source.label (s : Source) : String := s.origin.getD ("<" ++ s.language.display ++ " source>")

/-- What became of one source of a batch. -/
structure Outcome where
  origin : Option String
  label : String
  result : Except AnalysisError Report

/-- Whether the source has been analysed. -/
def Outcome.isOk (o : Outcome) : Bool := o.result.isOk

/-- The outcomes of sources, each on its own, in their order. -/
def analyzeAll (config : Config) (sources : List Source) : List Outcome :=
  sources.map fun s =>
    { origin := s.origin, label := s.label, result := analyze config s.language s.text }

end CodeMetrics
