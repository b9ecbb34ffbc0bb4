import CodeMetrics.Language
import CodeMetrics.Text.Split

/-!
# Paths

A path is a text whose segments are divided by slashes. Two texts name the same path when they have
the same components: repeated slashes, slashes at the end and the segment `.` do not count, except
for a `.` at the very front of a path. Paths are ordered by their components, and not as texts, so
`a/b` comes before `a.c`.
-/

namespace CodeMetrics.Path

/-- A step of a path. -/
inductive Component where
  /-- The slash at the front of a path that does not depend on the working directory. -/
  | root
  /-- The segment `.` at the front of a path. -/
  | here
  /-- The segment `..`. -/
  | up
  /-- Any other segment. -/
  | name (s : String)
  deriving DecidableEq, Inhabited

namespace Component

/-- The place of a kind of component in the order. -/
def rank : Component → Nat
  | root => 0
  | here => 1
  | up => 2
  | name _ => 3

/-- The order of components; names are ordered by their characters. -/
def order : Component → Component → Ordering
  | name a, name b => if a < b then .lt else if a = b then .eq else .gt
  | a, b => compareOfLessAndEq a.rank b.rank

/-- The component that a segment after the first one stands for, if any. -/
def ofSegment? : List Char → Option Component
  | [] => none
  | ['.'] => none
  | ['.', '.'] => some up
  | s => some (name (String.ofList s))

/-- The component that the first segment stands for, if any. -/
def ofFirstSegment? : List Char → Option Component
  | ['.'] => some here
  | s => ofSegment? s

end Component

/-- The texts between the slashes. -/
def segments (path : String) : List (List Char) := Text.splitOn ['/'] path.toList

/-- Whether a path begins with a slash. -/
def isAbsolute (path : String) : Bool := path.toList.head? == some '/'

/-- **The components of a path.** -/
def components (path : String) : List Component :=
  match segments path with
  | [] => []
  | first :: rest =>
    let start := if isAbsolute path then [Component.root] else (Component.ofFirstSegment? first).toList
    start ++ rest.filterMap Component.ofSegment?

/-- The order of lists of components, in which a list comes after its beginnings. -/
def orderComponents : List Component → List Component → Ordering
  | [], [] => .eq
  | [], _ :: _ => .lt
  | _ :: _, [] => .gt
  | a :: as, b :: bs => (a.order b).then (orderComponents as bs)

/-- **The order of paths.** -/
def order (a b : String) : Ordering := orderComponents (components a) (components b)

/-! ### The name at the end -/

/-- The last component of a path, if it is a name. -/
def fileName? (path : String) : Option String :=
  match (components path).getLast? with
  | some (.name s) => some s
  | _ => none

/-- The stem and the extension of a file name: what stands before and after its last dot. A name
with no dot, or with none but one at the front, is all stem. -/
def splitName (name : String) : String × Option String :=
  match Text.splitLast? ['.'] name.toList with
  | none => (name, none)
  | some ([], _) => (name, none)
  | some (before, after) => (String.ofList before, some (String.ofList after))

/-- The extension of the file that a path names. -/
def extension? (path : String) : Option String := (fileName? path).bind fun name => (splitName name).2

/-- The name without extension of the file that a path names. -/
def stem? (path : String) : Option String := (fileName? path).map fun name => (splitName name).1

/-! ### Going down and up -/

/-- The path of an entry of a directory. -/
def join (directory name : String) : String :=
  if directory.isEmpty || directory.toList.getLast? == some '/' then directory ++ name
  else directory ++ "/" ++ name

/-- Drops, from the end of a path that is given in reverse, everything that is no component: slashes,
and segments `.` with a slash in front of them. A slash that is all of the path stays. -/
def dropIdle : List Char → List Char
  | [] => []
  | ['/'] => ['/']
  | '/' :: rest => dropIdle rest
  | '.' :: '/' :: rest => dropIdle ('/' :: rest)
  | cs => cs

/-- **The directory above a path**: its text without the last component. A path that is empty or only
the root has none. -/
def parent? (path : String) : Option String :=
  match dropIdle path.toList.reverse with
  | [] => none
  | ['/'] => none
  | cs => some (String.ofList (dropIdle (cs.dropWhile (· != '/'))).reverse)

/-- A path and the directories above it, at most `count` in all, the path first. -/
def ancestors : Nat → String → List String
  | 0, _ => []
  | count + 1, path =>
    path :: match parent? path with
      | none => []
      | some above => ancestors count above

end CodeMetrics.Path

namespace CodeMetrics

/-- The language that the extension of a path selects. -/
def Language.ofPath? (path : String) : Option Language := (Path.extension? path).bind ofExtension?

end CodeMetrics
