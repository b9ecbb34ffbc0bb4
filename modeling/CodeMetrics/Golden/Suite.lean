import CodeMetrics.Golden.Fixture

/-!
# Suites

The results of comparing many fixtures, by identifier. Every identifier is in exactly one of three
groups: passed, failed with differences, or not comparable at all.
-/

namespace CodeMetrics

/-- The results of a suite. -/
structure SuiteResult where
  passed : Keyed Unit := {}
  failed : Keyed (List Mismatch) := {}
  errors : Keyed GoldenError := {}

namespace SuiteResult

/-- Whether every fixture passed. -/
def isSuccess (r : SuiteResult) : Bool := r.failed.isEmpty && r.errors.isEmpty

/-- The number of fixtures. -/
def total (r : SuiteResult) : Nat := r.passed.size + r.failed.size + r.errors.size

/-- Records what became of one fixture. -/
def record (r : SuiteResult) (id : String) : Except GoldenError Comparison → SuiteResult
  | .ok .same => { r with passed := r.passed.insert id () }
  | .ok (.different _ mismatches) => { r with failed := r.failed.insert id mismatches }
  | .error e => { r with errors := r.errors.insert id e }

end SuiteResult

namespace FixtureStore

/-- **Compares the fixtures with given identifiers.** -/
def runSuite (config : Config) (store : FixtureStore) (ids : List String) : SuiteResult :=
  ids.foldl (fun r id => r.record id (compare config store id)) {}

/-- Compares all fixtures. -/
def runAll (config : Config) (store : FixtureStore) : SuiteResult :=
  runSuite config store store.names

end FixtureStore

end CodeMetrics
