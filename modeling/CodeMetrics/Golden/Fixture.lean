import CodeMetrics.Analysis
import CodeMetrics.Golden.Mismatch
import CodeMetrics.Keyed
import CodeMetrics.Report.Stored

/-!
# Fixtures

A fixture is a source together with the stored report that is expected for it. Comparing a fixture
analyses its source and lists the differences; a difference is a result, not an error.
-/

namespace CodeMetrics

/-- Why a fixture could not be compared. -/
inductive GoldenError where
  | notFound (id : String)
  | analysis (id : String) (e : AnalysisError)
  /-- The stored report cannot be read. The message of the reader that says what is wrong with it is
  dropped, here and at the end of the text shown. -/
  | malformed (id : String)
  deriving DecidableEq

/-- The text shown for an error. -/
def GoldenError.message : GoldenError → String
  | notFound id => "fixture '" ++ id ++ "' not found"
  | analysis id e => "fixture '" ++ id ++ "' could not be analyzed: " ++ e.message
  | malformed id => "golden artifact for '" ++ id ++ "' is malformed"

/-- A source with the stored report expected for it. -/
structure Fixture where
  id : String
  language : Language
  source : String
  /-- The text of the stored report. -/
  expected : String
  deriving DecidableEq

/-- What comparing a fixture showed. -/
inductive Comparison where
  | same
  | different (fixture : String) (mismatches : List Mismatch)
  deriving DecidableEq

/-- **The stored report for a source.** -/
def renderGolden (config : Config) (id : String) (language : Language) (source : String) :
    Except GoldenError String :=
  match analyze config language source with
  | .error e => .error (.analysis id e)
  | .ok report => .ok report.canonical

/-- Compares an expected report with the one computed for a fixture. -/
def Comparison.ofReports (id : String) (expected actual : Report) : Comparison :=
  match expected.diff actual with
  | [] => .same
  | mismatches => .different id mismatches

namespace Fixture

/-- **Compares a fixture** with what its source gives now. -/
def compare (config : Config) (f : Fixture) : Except GoldenError Comparison :=
  match analyze config f.language f.source with
  | .error e => .error (.analysis f.id e)
  | .ok actual =>
    match Report.ofText? f.expected with
    | none => .error (.malformed f.id)
    | some expected => .ok (.ofReports f.id expected actual)

end Fixture

/-! ### Stores of fixtures -/

/-- Fixtures under their identifiers. -/
abbrev FixtureStore := Keyed Fixture

namespace FixtureStore

/-- Adds a fixture, in place of the one with the same identifier. -/
def add (store : FixtureStore) (f : Fixture) : FixtureStore := store.insert f.id f

/-- The fixture with an identifier. -/
def find (store : FixtureStore) (id : String) : Except GoldenError Fixture :=
  match store.get? id with
  | some f => .ok f
  | none => .error (.notFound id)

/-- Compares the fixture with an identifier. -/
def compare (config : Config) (store : FixtureStore) (id : String) :
    Except GoldenError Comparison :=
  match find store id with
  | .error e => .error e
  | .ok f => f.compare config

end FixtureStore

end CodeMetrics
