import CodeMetrics.TaskError

/-!
# Finding sources

Files and directories that a user names become a list of sources in the order of their paths. A file
that is named must have the extension of a source; below a directory, files without one are passed
over, and so is everything whose name begins with a dot.
-/

namespace CodeMetrics

/-- A source that has been found. -/
structure FoundSource where
  path : String
  language : Language
  deriving DecidableEq

namespace FileTree

/-- Whether an entry of a directory is passed over by its name. -/
def isHidden (name : String) : Bool := name.toList.head? == some '.'

/-- The names that are not passed over are those that do not begin with a dot. -/
theorem isHidden_eq_false_iff {name : String} :
    isHidden name = false ↔ ∀ rest, name ≠ "." ++ rest := by
  rw [isHidden, beq_eq_false_iff_ne]
  constructor
  · rintro h rest rfl
    simp at h
  · intro h hdot
    obtain ⟨rest, hrest⟩ := List.head?_eq_some_iff.1 hdot
    refine h (String.ofList rest) ?_
    rw [← String.toList_inj, hrest]
    simp

/-- The paths of the files below the directory that stands at `place` and has the path `path`.
Links are followed, unless they lead to nothing or back to one of the directories `entered` on the
way. At most `depth` directories are entered one below another. -/
def filesBelow (tree : FileTree) : Nat → List Place → String → Place → List String
  | 0, _, _, _ => []
  | depth + 1, entered, path, place =>
    (tree.entryNames place).flatMap fun name =>
      let entry := Path.join path name
      let below := place ++ [name]
      if isHidden name then []
      else
        match tree.node? below with
        | some .directory => filesBelow tree depth (below :: entered) entry below
        | some (.file _) => [entry]
        | some (.link _) =>
          match tree.find entry with
          | .ok (target, .directory) =>
            if entered.contains target then []
            else filesBelow tree depth (target :: entered) entry target
          | .ok (_, .file _) => [entry]
          | _ => []
        | none => []

/-- More than the number of directories that can be entered one below another. A link leads to a
directory that has not been entered, and between two links the way only goes down, so the number of
nodes bounds the number of links and the number of steps between two of them. -/
def maxDepth (tree : FileTree) : Nat := (tree.nodes.length + 1) * (tree.nodes.length + 1)

/-- The source at a path, if its extension is one of a source. -/
def source? (path : String) : Option FoundSource :=
  (Language.ofPath? path).map fun language => { path, language }

/-- The sources at a path that a user named. -/
def sourcesAt (tree : FileTree) (path : String) : Except TaskError (List FoundSource) :=
  match tree.find path with
  | .ok (_, .file _) =>
    match source? path with
    | some found => .ok [found]
    | none => .error (.notASource path)
  | .ok (place, .directory) =>
    .ok ((filesBelow tree tree.maxDepth [place] path place).filterMap source?)
  | _ => .error (.noSuchPath path)

/-- The sources at paths, in the order of the paths. -/
def sourcesAtAll (tree : FileTree) : List String → Except TaskError (List FoundSource)
  | [] => .ok []
  | path :: paths =>
    match tree.sourcesAt path with
    | .error e => .error e
    | .ok found =>
      match tree.sourcesAtAll paths with
      | .error e => .error e
      | .ok more => .ok (found ++ more)

/-- Drops every source with the same path as the one before it. -/
def dropRepeats : List FoundSource → List FoundSource
  | [] => []
  | [s] => [s]
  | s :: t :: rest =>
    if Path.order s.path t.path = .eq then dropRepeats (s :: rest)
    else s :: dropRepeats (t :: rest)
termination_by sources => sources.length

/-- **The sources that a user named**, each once, in the order of their paths. -/
def discover (tree : FileTree) (paths : List String) : Except TaskError (List FoundSource) :=
  match tree.sourcesAtAll paths with
  | .error e => .error e
  | .ok found =>
    .ok (dropRepeats (found.mergeSort fun a b => (Path.order a.path b.path).isLE))

/-- The text of a source that has been found, if it can be read. -/
def load? (tree : FileTree) (found : FoundSource) : Option Source :=
  match tree.read found.path with
  | .ok text => some { language := found.language, text, origin := some found.path }
  | .error _ => none

/-- The sources that can be read, in order. -/
def loadAll (tree : FileTree) (found : List FoundSource) : List Source := found.filterMap tree.load?

end FileTree

end CodeMetrics
