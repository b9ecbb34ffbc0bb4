/-!
# Configuration

What is counted and where the thresholds lie. Every option has a default.
-/

namespace CodeMetrics

/-- The measure of size that decides whether a unit is long. -/
inductive LongMethodMeasure where
  | statements
  | lines
  deriving DecidableEq, Inhabited

namespace LongMethodMeasure

/-- The name of a measure in a configuration. -/
def tag : LongMethodMeasure → String
  | statements => "statements"
  | lines => "lines"

/-- The measure with a given name. -/
def ofTag? : String → Option LongMethodMeasure
  | "statements" => some statements
  | "lines" => some lines
  | _ => none

end LongMethodMeasure

/-- The options of the analysis. -/
structure Config where
  /-- A unit is long when its measure is above this. -/
  longMethodThreshold : UInt64 := 15
  longMethodMeasure : LongMethodMeasure := .statements
  /-- Every logical operator in a condition is a decision. -/
  countLogicalOperators : Bool := false
  /-- A default label is a decision, like a case label. -/
  countDefaultLabel : Bool := false
  /-- A last plain else is a decision. -/
  countElseBranch : Bool := false
  /-- Every conditional expression is a decision. -/
  countConditionalExpressions : Bool := false
  /-- A parameter list is long when it has more parameters than this. -/
  longParameterListThreshold : UInt64 := 4
  /-- Comments are excessive when they are on more lines than this. -/
  excessiveCommentsThreshold : UInt64 := 10
  /-- A chain with this many calls is a message chain. -/
  messageChainThreshold : UInt32 := 4
  deriving DecidableEq, Inhabited

/-- A threshold that must be at least one. -/
inductive PositiveOption where
  | longMethodThreshold
  | messageChainThreshold
  deriving DecidableEq

namespace PositiveOption

/-- The name of an option. -/
def name : PositiveOption → String
  | longMethodThreshold => "long_method_threshold"
  | messageChainThreshold => "message_chain_threshold"

/-- The text shown when the option is zero. -/
def message (o : PositiveOption) : String :=
  "invalid value for '" ++ o.name ++ "': must be at least 1"

end PositiveOption

namespace Config

/-- The first option that must be at least one and is zero. -/
def firstInvalid? (c : Config) : Option PositiveOption :=
  if c.longMethodThreshold = 0 then some .longMethodThreshold
  else if c.messageChainThreshold = 0 then some .messageChainThreshold
  else none

end Config

end CodeMetrics
