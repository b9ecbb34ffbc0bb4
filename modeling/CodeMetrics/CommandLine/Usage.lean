import CodeMetrics.CommandLine

/-!
# Help

What is printed for a command line that is not understood, or that asks for help.
-/

namespace CodeMetrics

/-- How the program is used. -/
def usageText : String :=
  "Structural complexity metrics for C and C++\n\n" ++
  "Usage: cxmetrics [OPTIONS] <COMMAND>\n\n" ++
  "Commands:\n" ++
  "  analyze <PATHS>...   Compute metrics for source files or directories\n" ++
  "  golden check <DIR>   Compare every fixture in a directory against its golden artifact\n" ++
  "  golden bless <DIR>   Regenerate golden artifacts from the current engine\n" ++
  "  help                 Print this message\n\n" ++
  "Options:\n" ++
  "  -v, --verbose                        Increase log verbosity\n" ++
  "  -c, --config <CONFIG>                Configuration file\n" ++
  "      --no-color                       Disable colored output\n" ++
  "  -f, --format <FORMAT>                Output format: text or json\n" ++
  "      --long-method-threshold <N>      Override the long-method threshold\n" ++
  "      --count-logical-operators        Count logical operators as decision points\n" ++
  "  -h, --help                           Print help\n" ++
  "  -V, --version                        Print version\n"

/-- The name and version of the program. -/
def versionText : String := "cxmetrics 0.1.0\n"

namespace UsageError

/-- What is wrong with a command line, in words. -/
def message : UsageError → String
  | missingArgument => "a required argument was not provided"
  | unknownArgument => "unexpected argument found"
  | invalidValue => "invalid or missing value for an argument"
  | malformedValue => "a value could not be read as a number"
  | tooManyValues => "unexpected value for an option that takes none"
  | unknownSubcommand => "unrecognized subcommand"
  | missingSubcommand => "a subcommand is required but one was not provided"
  | repeatedOption => "an argument cannot be used multiple times"
  | helpRequested => "help"
  | versionRequested => "version"
  | nothingAsked => "nothing to do"

/-- The exit code, what is printed, and what is printed as an error, for a command line that is not
carried out. -/
def answer : UsageError → Nat × String × String
  | helpRequested => (0, usageText, "")
  | versionRequested => (0, versionText, "")
  | nothingAsked => (2, "", usageText)
  | e => (2, "", "error: " ++ e.message ++ "\n\n" ++ usageText)

end UsageError

end CodeMetrics
