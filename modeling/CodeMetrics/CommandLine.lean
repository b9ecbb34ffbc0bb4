/-!
# Command lines

What a user may ask for: the metrics of sources, or a check or renewal of the stored reports in a
directory.
-/

namespace CodeMetrics

/-- How results are printed. -/
inductive OutputFormat where
  /-- A table for a reader. -/
  | text
  | json
  deriving DecidableEq, Inhabited

/-- The format with a given name. -/
def OutputFormat.ofName? : String → Option OutputFormat
  | "text" => some text
  | "json" => some json
  | _ => none

/-- What is to be done. -/
inductive Command where
  | analyze (paths : List String) (format : OutputFormat) (longMethodThreshold : Option UInt64)
      (countLogicalOperators : Bool)
  | check (directory : String) (format : OutputFormat)
  | bless (directory : String)
  deriving DecidableEq

/-- A command line that has been understood. -/
structure Invocation where
  /-- How much is logged. -/
  verbosity : Nat := 0
  /-- The configuration file that was named. -/
  configPath : Option String := none
  noColor : Bool := false
  command : Command
  deriving DecidableEq

/-- Why a command line is not understood, or asks for nothing but information. -/
inductive UsageError where
  | missingArgument
  | unknownArgument
  | invalidValue
  /-- The value is not of the form that its option needs. -/
  | malformedValue
  | tooManyValues
  | unknownSubcommand
  | missingSubcommand
  /-- An option is given twice. -/
  | repeatedOption
  | helpRequested
  | versionRequested
  /-- There is nothing to do, so the help is shown. -/
  | nothingAsked
  deriving DecidableEq

end CodeMetrics
