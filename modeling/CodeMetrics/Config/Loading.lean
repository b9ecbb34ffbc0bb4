import CodeMetrics.TaskError
import CodeMetrics.Toml.Parser

/-!
# Loading configurations

A configuration is a TOML document. It is read from a file that the user names, or else from the
nearest file `.cxmetrics.toml`, looked for in a directory and the directories above it.
-/

namespace CodeMetrics

namespace Toml

/-- A whole number below a bound. -/
def natBelow? (bound : Nat) : Toml → Option Nat
  | .int n => if 0 ≤ n && n < bound then some n.toNat else none
  | _ => none

/-- A whole number that fits a 64-bit word. -/
def uint64? (v : Toml) : Option UInt64 := (natBelow? UInt64.size v).map UInt64.ofNat

/-- A whole number that fits a 32-bit word. -/
def uint32? (v : Toml) : Option UInt32 := (natBelow? UInt32.size v).map UInt32.ofNat

/-- A truth value. -/
def bool? : Toml → Option Bool
  | .bool b => some b
  | _ => none

/-- Whether a value has no parts. -/
def isEmpty : Toml → Bool
  | .arr [] => true
  | .table _ [] => true
  | _ => false

/-- The name of a value of an enumeration: a string, or a table with that name as its only member,
whose value is empty. -/
def enumName? : Toml → Option String
  | .str s => some s
  | .table _ [(name, v)] => if v.isEmpty then some name else none
  | _ => none

/-- A member that has a default, read by `read` when it is given. -/
def memberOr? {α : Type} (members : List (String × Toml)) (name : String) (default : α)
    (read : Toml → Option α) : Option α :=
  match members.lookup name with
  | some v => read v
  | none => some default

end Toml

namespace Config

/-- Reads a configuration from the members of a table. Options that are not given have their
defaults, and other members are ignored. -/
def ofToml? (members : List (String × Toml)) : Option Config := do
  let base : Config := {}
  let longMethodThreshold ←
    Toml.memberOr? members "long_method_threshold" base.longMethodThreshold Toml.uint64?
  let longMethodMeasure ←
    Toml.memberOr? members "long_method_measure" base.longMethodMeasure fun v =>
      v.enumName?.bind LongMethodMeasure.ofTag?
  let countLogicalOperators ←
    Toml.memberOr? members "count_logical_operators" base.countLogicalOperators Toml.bool?
  let countDefaultLabel ←
    Toml.memberOr? members "count_default_label" base.countDefaultLabel Toml.bool?
  let countElseBranch ←
    Toml.memberOr? members "count_else_branch" base.countElseBranch Toml.bool?
  let countConditionalExpressions ←
    Toml.memberOr? members "count_conditional_expressions" base.countConditionalExpressions
      Toml.bool?
  let longParameterListThreshold ←
    Toml.memberOr? members "long_parameter_list_threshold" base.longParameterListThreshold
      Toml.uint64?
  let excessiveCommentsThreshold ←
    Toml.memberOr? members "excessive_comments_threshold" base.excessiveCommentsThreshold
      Toml.uint64?
  let messageChainThreshold ←
    Toml.memberOr? members "message_chain_threshold" base.messageChainThreshold Toml.uint32?
  return { longMethodThreshold, longMethodMeasure, countLogicalOperators, countDefaultLabel,
           countElseBranch, countConditionalExpressions, longParameterListThreshold,
           excessiveCommentsThreshold, messageChainThreshold }

/-- A configuration that has passed its checks. -/
def validate (c : Config) : Except ConfigError Config :=
  match c.firstInvalid? with
  | some option => .error (.invalid option)
  | none => .ok c

/-- **Reads a configuration** from the text of the file at a path. -/
def ofText (path text : String) : Except ConfigError Config :=
  match (Toml.parse? text).bind ofToml? with
  | some c => c.validate
  | none => .error (.parse path)

/-- The name of a file with a configuration. -/
def fileName : String := ".cxmetrics.toml"

/-- The number of directories in which a configuration is looked for. -/
def maxDirectories : Nat := 10

/-- **The path of the nearest configuration** in a directory or above it. -/
def find? (tree : FileTree) (directory : String) : Option String :=
  ((Path.ancestors maxDirectories directory).map fun d => Path.join d fileName).find? tree.isFile

/-- The configuration in the file at a path. -/
def load (tree : FileTree) (path : String) : Except ConfigError Config :=
  match tree.read path with
  | .error e => .error (.read path e)
  | .ok text => ofText path text

/-- **The configuration in effect**: the one that was named, else the nearest one, else the
default. -/
def resolve (tree : FileTree) (named : Option String) (directory : String) :
    Except ConfigError Config :=
  match named.orElse fun _ => find? tree directory with
  | some path => load tree path
  | none => .ok {}

end Config

end CodeMetrics
