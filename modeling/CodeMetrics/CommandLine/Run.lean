import CodeMetrics.CommandLine
import CodeMetrics.CommandLine.Output
import CodeMetrics.Config.Loading
import CodeMetrics.Discovery
import CodeMetrics.Golden.Directory

/-!
# Running a command

A command is carried out on a file tree. What comes of it is what is printed, the exit code, and the
tree as the command leaves it.
-/

namespace CodeMetrics

/-- What comes of a command. -/
structure RunResult where
  /-- Zero for success, one for failures and mismatches, two for what could not be done at all. -/
  exitCode : Nat := 0
  out : String := ""
  err : String := ""
  tree : FileTree

/-- What the surroundings say about colours. -/
structure ColorSettings where
  /-- The variable `CLICOLOR_FORCE`. -/
  force : Option String := none
  /-- The variable `NO_COLOR`. -/
  forbid : Option String := none
  /-- The variable `CLICOLOR`. -/
  allow : Option String := none
  /-- Whether the output is a terminal. -/
  isTerminal : Bool := false

/-- Whether text is coloured. The user may forbid it; else a variable may force it, unless it is zero,
or forbid it; else a terminal has colours, unless a variable says zero. -/
def ColorSettings.useColor (c : ColorSettings) (noColor : Bool) : Bool :=
  if noColor then false
  else if c.force.any (· != "0") then true
  else if c.forbid.isSome then false
  else c.isTerminal && c.allow.all (· != "0")

namespace Command

/-- The configuration with the options of a command. -/
def adjust (config : Config) (longMethodThreshold : Option UInt64) (countLogicalOperators : Bool) :
    Config :=
  { config with
    longMethodThreshold := longMethodThreshold.getD config.longMethodThreshold
    countLogicalOperators := countLogicalOperators || config.countLogicalOperators }

/-- **The metrics of sources.** -/
def runAnalyze (colored : Bool) (tree : FileTree) (config : Config) (paths : List String)
    (format : OutputFormat) : Except TaskError RunResult :=
  match tree.discover paths with
  | .error e => .error e
  | .ok found =>
    let sources := tree.loadAll found
    let outcomes := analyzeAll config sources
    let failed := (outcomes.filter fun o => !o.isOk).length + (found.length - sources.length)
    let (out, err) := match format with
      | .json => (Output.prettyLine (.arr (outcomes.map Output.outcomeJson)), "")
      | .text => (Output.tables colored outcomes, Output.failures colored outcomes)
    if failed = 0 then .ok { out, err, tree }
    else
      .ok { exitCode := 1, out, err := err ++ Output.warning colored failed found.length, tree }

/-- **The check of a directory of fixtures.** -/
def runCheck (colored : Bool) (tree : FileTree) (config : Config) (directory : String)
    (format : OutputFormat) : Except TaskError RunResult :=
  match tree.fixtureFiles directory with
  | .error e => .error e
  | .ok files =>
    let result := tree.checkFixtures config files
    let out := match format with
      | .json => Output.prettyLine (Output.suiteJson result)
      | .text => Output.suite colored result
    .ok { exitCode := if result.isSuccess then 0 else 1, out, tree }

/-- The result of a command that could not be carried out. -/
def failed (colored : Bool) (tree : FileTree) (e : TaskError) : RunResult :=
  { exitCode := 2, err := Output.errorMark colored ++ " " ++ e.chain ++ "\n", tree }

/-- **The renewal of the stored reports in a directory.** What was written before a failure stays. -/
def runBless (colored : Bool) (tree : FileTree) (config : Config) (directory : String) : RunResult :=
  match tree.bless config directory with
  | (after, .error e) => failed colored after e
  | (after, .ok written) =>
    { out := "Blessed " ++ toString written.length ++ " golden artifacts in " ++ directory ++ "\n"
      tree := after }

/-- The result of a command that leaves the tree as it is. -/
def settle (colored : Bool) (tree : FileTree) : Except TaskError RunResult → RunResult
  | .ok r => r
  | .error e => failed colored tree e

/-- Carries out a command with a configuration. -/
def run (colored : Bool) (tree : FileTree) (config : Config) : Command → RunResult
  | analyze paths format threshold operators =>
    match (adjust config threshold operators).validate with
    | .error e => failed colored tree (.config e)
    | .ok config => settle colored tree (runAnalyze colored tree config paths format)
  | check directory format => settle colored tree (runCheck colored tree config directory format)
  | bless directory => runBless colored tree config directory

end Command

/-- The path of the working directory. -/
def FileTree.workingPath (tree : FileTree) : String := "/" ++ "/".intercalate tree.workingDirectory

/-- **Carries out what a command line asks for.** -/
def Invocation.run (i : Invocation) (colors : ColorSettings) (tree : FileTree) : RunResult :=
  let colored := colors.useColor i.noColor
  match Config.resolve tree i.configPath tree.workingPath with
  | .error e => Command.failed colored tree (.config e)
  | .ok config => i.command.run colored tree config

end CodeMetrics
