import CodeMetrics.FileTree
import CodeMetrics.Golden.Fixture

/-!
# Failed tasks

A task on files fails with a cause. `TaskError.context` says what could not be done, and
`TaskError.chain` goes on with the reasons behind it, each in front of its own.
-/

namespace CodeMetrics

/-- Why a configuration could not be loaded. -/
inductive ConfigError where
  | read (path : String) (cause : FileError)
  /-- The text is no configuration. -/
  | parse (path : String)
  | invalid (option : PositiveOption)
  deriving DecidableEq

/-- The text shown for a configuration that could not be loaded. -/
def ConfigError.message : ConfigError → String
  | read path cause => "failed to read config " ++ path ++ ": " ++ cause.message
  | parse path => "failed to parse config " ++ path
  | invalid option => option.message

/-- Why a task on files failed. -/
inductive TaskError where
  | noSuchPath (path : String)
  | notASource (path : String)
  | read (path : String) (cause : FileError)
  | write (path : String) (cause : FileError)
  | list (directory : String) (cause : FileError)
  | bless (path : String) (cause : GoldenError)
  | config (cause : ConfigError)
  deriving DecidableEq

namespace TaskError

/-- **What could not be done.** -/
def context : TaskError → String
  | noSuchPath path => path ++ " does not exist"
  | notASource path => path ++ " is not a C or C++ source file"
  | read path _ => "Failed to read " ++ path
  | write path _ => "Failed to write " ++ path
  | list directory _ => "Failed to list fixtures in " ++ directory
  | bless path _ => "Cannot bless " ++ path
  | config cause => cause.message

/-- The reasons behind an error of a golden comparison. -/
def goldenReasons (e : GoldenError) : List String :=
  e.message :: match e with
    | .analysis _ cause => [cause.message]
    | _ => []

/-- The reasons behind a failure, each in front of its own reason. -/
def reasons : TaskError → List String
  | noSuchPath _ => []
  | notASource _ => []
  | read _ cause => [cause.message]
  | write _ cause => [cause.message]
  | list directory cause =>
    ["IO error for operation on " ++ directory ++ ": " ++ cause.message, cause.message]
  | bless _ cause => goldenReasons cause
  | config (.read _ cause) => [cause.message]
  | config _ => []

/-- **What could not be done, and why.** -/
def chain (e : TaskError) : String := ": ".intercalate (e.context :: e.reasons)

end TaskError

namespace FileTree

/-- The text of a file, as part of a task. -/
def readText (tree : FileTree) (path : String) : Except TaskError String :=
  (tree.read path).mapError (.read path)

/-- Writes the text of a file, as part of a task. -/
def writeText (tree : FileTree) (path text : String) : Except TaskError FileTree :=
  (tree.write path text).mapError (.write path)

end FileTree

end CodeMetrics
