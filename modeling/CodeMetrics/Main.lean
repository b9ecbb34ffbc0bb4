import CodeMetrics.CommandLine.Parser
import CodeMetrics.CommandLine.Run
import CodeMetrics.CommandLine.Usage

/-!
# The program

Reads the arguments and the environment, takes a picture of the files that the command concerns as a
`FileTree`, runs the command on it, and prints and writes what comes of it. A symbolic link is
pictured as a link to the absolute path of what it leads to.
-/

namespace CodeMetrics.Program

/-- The absolute path of a place. -/
def pathOf (place : Place) : String := "/" ++ "/".intercalate place

/-- The place that a path names, seen from a working directory. -/
def placeOf (workingDirectory : Place) (path : String) : Place :=
  (Path.components path).foldl (fun place step =>
    match step with
    | .root => []
    | .here => place
    | .up => place.dropLast
    | .name s => place ++ [s]) (if Path.isAbsolute path then [] else workingDirectory)

/-- A picture of some of the files. -/
structure Picture where
  tree : FileTree
  /-- The places that have been looked at. -/
  seen : List Place := []

/-- Puts a node into a picture. -/
def Picture.add (p : Picture) (place : Place) (node : FileNode) : Picture :=
  { p with tree := p.tree.add place node }

/-- Adds a place, and all places below it, to a picture. -/
partial def capture (p : Picture) (place : Place) : IO Picture := do
  if p.seen.contains place then return p
  let p := { p with seen := place :: p.seen }
  let path := (← IO.currentDir) / pathOf place
  try
    match (← path.symlinkMetadata).type with
    | .dir =>
      let entries ← path.readDir
      entries.foldlM (fun p entry => capture p (place ++ [entry.fileName])) (p.add place .directory)
    | .file => return p.add place (.file (.ofBytes (← IO.FS.readBinFile path)))
    | .symlink =>
      let target := toString (← IO.FS.realPath path)
      capture (p.add place (.link target)) (placeOf [] target)
    | .other => return p
  catch _ => return p

/-- The paths that a command concerns. -/
def concerned : Command → List String
  | .analyze paths _ _ _ => paths
  | .check directory _ => [directory]
  | .bless directory => [directory]

/-- The places at which a configuration is looked for. -/
def configPlaces (workingDirectory : Place) : Option String → List Place
  | some path => [placeOf workingDirectory path]
  | none =>
    ((Path.ancestors Config.maxDirectories (pathOf workingDirectory)).map fun directory =>
      placeOf [] (Path.join directory Config.fileName))

/-- Writes the files that a command has changed. -/
def writeBack (before after : FileTree) : IO Unit :=
  after.nodes.forM fun (place, node) => do
    match node, before.node? place with
    | .file (.text new), some (.file (.text old)) =>
      if new != old then IO.FS.writeFile (pathOf place) new
    | .file (.text new), _ => IO.FS.writeFile (pathOf place) new
    | _, _ => return ()

/-- What the surroundings say about colours. -/
def colorSettings : IO ColorSettings := do
  return {
    force := ← IO.getEnv "CLICOLOR_FORCE"
    forbid := ← IO.getEnv "NO_COLOR"
    allow := ← IO.getEnv "CLICOLOR"
    isTerminal := ← (← IO.getStdout).isTty }

/-- Carries out a command on the files. -/
def perform (i : Invocation) : IO UInt32 := do
  let workingDirectory := placeOf [] (toString (← IO.currentDir))
  let start := ({ workingDirectory } : FileTree).add workingDirectory .directory
  let places := configPlaces workingDirectory i.configPath ++
    (concerned i.command).map (placeOf workingDirectory)
  let picture ← places.foldlM capture { tree := start }
  let result := i.run (← colorSettings) picture.tree
  writeBack picture.tree result.tree
  IO.print result.out
  IO.eprint result.err
  return UInt32.ofNat result.exitCode

end CodeMetrics.Program

/-- Runs the program. -/
def main (arguments : List String) : IO UInt32 := do
  match CodeMetrics.Invocation.ofArguments (← IO.getEnv "CXMETRICS_CONFIG") arguments with
  | .ok i => CodeMetrics.Program.perform i
  | .error e =>
    let (code, out, err) := e.answer
    IO.print out
    IO.eprint err
    return UInt32.ofNat code
