import CodeMetrics.Golden.Suite
import CodeMetrics.TaskError

/-!
# Directories of fixtures

A directory holds sources, and next to each source the report expected for it: `name.golden.json`
next to `name.c` or `name.cpp`. The name without the extension identifies the fixture.
-/

namespace CodeMetrics

/-- The end of the name of every stored report. -/
def goldenSuffix : String := ".golden.json"

/-- A source in a directory of fixtures. -/
structure FixtureFile where
  id : String
  language : Language
  sourcePath : String
  /-- The path of the stored report, whether it is there or not. -/
  goldenPath : String
  deriving DecidableEq

namespace FixtureFile

/-- The fixture whose source is an entry of a directory, if its extension is one of a source. -/
def ofEntry? (directory name : String) : Option FixtureFile :=
  let path := Path.join directory name
  match Language.ofPath? path, Path.stem? path with
  | some language, some id =>
    some { id, language, sourcePath := path, goldenPath := Path.join directory (id ++ goldenSuffix) }
  | _, _ => none

/-- Whether there is a stored report. -/
def hasGolden (tree : FileTree) (f : FixtureFile) : Bool := tree.isFile f.goldenPath

/-- The fixture with the texts of its source and its stored report, if there is one and both can be
read. -/
def load? (tree : FileTree) (f : FixtureFile) : Option Fixture :=
  if f.hasGolden tree then
    match tree.read f.sourcePath, tree.read f.goldenPath with
    | .ok source, .ok expected => some { id := f.id, language := f.language, source, expected }
    | _, _ => none
  else none

/-- Writes the report that the source gives now. -/
def bless (config : Config) (tree : FileTree) (f : FixtureFile) : Except TaskError FileTree :=
  match tree.readText f.sourcePath with
  | .error e => .error e
  | .ok source =>
    match renderGolden config f.id f.language source with
    | .error e => .error (.bless f.sourcePath e)
    | .ok golden => tree.writeText f.goldenPath golden

end FixtureFile

namespace FileTree

/-- The names of the files in the directory at a place; links are no files. -/
def fileNames (tree : FileTree) (directory : Place) : List String :=
  (tree.entryNames directory).filter fun name =>
    (tree.node? (directory ++ [name])).any FileNode.isFile

/-- **The fixtures in a directory**, in the order of their identifiers. -/
def fixtureFiles (tree : FileTree) (directory : String) : Except TaskError (List FixtureFile) :=
  match tree.find directory with
  | .error e => .error (.list directory e)
  | .ok (place, .directory) =>
    .ok (((tree.fileNames place).filterMap (FixtureFile.ofEntry? directory)).mergeSort
      fun a b => a.id ≤ b.id)
  | .ok _ => .ok []

/-- The fixtures whose source and stored report can be read. -/
def loadFixtures (tree : FileTree) (files : List FixtureFile) : FixtureStore :=
  (files.filterMap (FixtureFile.load? tree)).foldl FixtureStore.add {}

/-- Writes the reports of fixtures one after the other, up to the first failure; the paths written
are listed when there is none. -/
def blessFiles (config : Config) (tree : FileTree) :
    List FixtureFile → FileTree × Except TaskError (List String)
  | [] => (tree, .ok [])
  | f :: rest =>
    match f.bless config tree with
    | .error e => (tree, .error e)
    | .ok next =>
      match blessFiles config next rest with
      | (last, .ok paths) => (last, .ok (f.goldenPath :: paths))
      | (last, .error e) => (last, .error e)

/-- **Writes the reports of all fixtures in a directory.** -/
def bless (config : Config) (tree : FileTree) (directory : String) :
    FileTree × Except TaskError (List String) :=
  match tree.fixtureFiles directory with
  | .error e => (tree, .error e)
  | .ok files => blessFiles config tree files

/-- The result of comparing all fixtures in a directory with their stored reports. -/
def checkFixtures (config : Config) (tree : FileTree) (files : List FixtureFile) : SuiteResult :=
  (tree.loadFixtures files).runSuite config (files.map (·.id))

end FileTree

end CodeMetrics
