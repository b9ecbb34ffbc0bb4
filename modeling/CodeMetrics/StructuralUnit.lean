import CodeMetrics.Span
import CodeMetrics.Statement

/-!
# Structural units

A unit is one analysable callable: a function, a method, or a lambda that stands outside of every
callable.
-/

namespace CodeMetrics

/-- The sort of a unit. -/
inductive UnitKind where
  | function
  | method
  /-- A lambda outside of every callable. -/
  | lambda
  deriving DecidableEq, Inhabited

namespace UnitKind

/-- The name of a sort of unit in reports. -/
def tag : UnitKind → String
  | function => "function"
  | method => "method"
  | lambda => "lambda"

/-- The sort of unit with a given name. -/
def ofTag? : String → Option UnitKind
  | "function" => some function
  | "method" => some method
  | "lambda" => some lambda
  | _ => none

theorem ofTag?_tag (k : UnitKind) : ofTag? k.tag = some k := by
  cases k <;> rfl

end UnitKind

/-- One analysable callable. -/
structure StructuralUnit where
  /-- The name with the names of the scopes around it. -/
  name : String
  kind : UnitKind
  parameterCount : Nat
  body : List Statement
  span : Span
  /-- The name of the type the callable belongs to. -/
  enclosingType : Option String
  /-- The number of lambdas merged into the body. -/
  lambdaCount : Nat
  /-- The number of code lines of the span. -/
  realLines : Nat

end CodeMetrics
