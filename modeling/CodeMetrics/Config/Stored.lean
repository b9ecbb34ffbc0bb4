import CodeMetrics.Config
import CodeMetrics.Json.Record

/-!
# Configurations as JSON

A configuration is read from a record, every field of which has a default.
-/

namespace CodeMetrics.Config

/-- The names of the options. -/
def fieldNames : List String :=
  ["long_method_threshold", "long_method_measure", "count_logical_operators",
    "count_default_label", "count_else_branch", "count_conditional_expressions",
    "long_parameter_list_threshold", "excessive_comments_threshold", "message_chain_threshold"]

/-- A configuration as JSON. -/
def toJson (c : Config) : Json :=
  .obj [("long_method_threshold", .nat c.longMethodThreshold.toNat),
    ("long_method_measure", .str c.longMethodMeasure.tag),
    ("count_logical_operators", .bool c.countLogicalOperators),
    ("count_default_label", .bool c.countDefaultLabel),
    ("count_else_branch", .bool c.countElseBranch),
    ("count_conditional_expressions", .bool c.countConditionalExpressions),
    ("long_parameter_list_threshold", .nat c.longParameterListThreshold.toNat),
    ("excessive_comments_threshold", .nat c.excessiveCommentsThreshold.toNat),
    ("message_chain_threshold", .nat c.messageChainThreshold.toNat)]

/-- Reads a measure. -/
def measureOfJson? (v : Json) : Option LongMethodMeasure :=
  v.enumName?.bind LongMethodMeasure.ofTag?

/-- **Reads a configuration.** Options that are not given have their defaults. -/
def ofJson? (v : Json) : Option Config := do
  let fields ← v.record? fieldNames
  let base : Config := {}
  let longMethodThreshold ←
    Json.fieldOr? fields "long_method_threshold" base.longMethodThreshold Json.uint64?
  let longMethodMeasure ←
    Json.fieldOr? fields "long_method_measure" base.longMethodMeasure measureOfJson?
  let countLogicalOperators ←
    Json.fieldOr? fields "count_logical_operators" base.countLogicalOperators Json.bool?
  let countDefaultLabel ←
    Json.fieldOr? fields "count_default_label" base.countDefaultLabel Json.bool?
  let countElseBranch ←
    Json.fieldOr? fields "count_else_branch" base.countElseBranch Json.bool?
  let countConditionalExpressions ←
    Json.fieldOr? fields "count_conditional_expressions" base.countConditionalExpressions
      Json.bool?
  let longParameterListThreshold ←
    Json.fieldOr? fields "long_parameter_list_threshold" base.longParameterListThreshold
      Json.uint64?
  let excessiveCommentsThreshold ←
    Json.fieldOr? fields "excessive_comments_threshold" base.excessiveCommentsThreshold
      Json.uint64?
  let messageChainThreshold ←
    Json.fieldOr? fields "message_chain_threshold" base.messageChainThreshold Json.uint32?
  return { longMethodThreshold, longMethodMeasure, countLogicalOperators, countDefaultLabel,
           countElseBranch, countConditionalExpressions, longParameterListThreshold,
           excessiveCommentsThreshold, messageChainThreshold }

end CodeMetrics.Config
