import CodeMetrics.Path

/-!
# File trees

A tree of files, directories and symbolic links, seen from a working directory. A place in the tree
is the list of names on the way down from the root; a path is a text that `FileTree.resolve` turns
into a place, following links on the way. Every regular file has one place: files that have several
names are left out, and so are special files such as devices and pipes, permissions, and names that
are not text.

* `FileTree.resolve` – the place that a path leads to;
* `FileTree.read` and `FileTree.write` – the text of a file;
* `FileTree.entryNames` – the names in a directory.
-/

namespace CodeMetrics

/-- Why an operation on a file is refused. -/
inductive FileError where
  | notFound
  | notADirectory
  | isADirectory
  | tooManyLinks
  /-- The bytes of the file are not text in UTF-8. -/
  | notText
  deriving DecidableEq

/-- The text shown for a refused operation. -/
def FileError.message : FileError → String
  | notFound => "No such file or directory (os error 2)"
  | notADirectory => "Not a directory (os error 20)"
  | isADirectory => "Is a directory (os error 21)"
  | tooManyLinks => "Too many levels of symbolic links (os error 40)"
  | notText => "stream did not contain valid UTF-8"

/-- What a file holds: text, or bytes that are not text in UTF-8. -/
inductive FileContent where
  | text (s : String)
  | binary (bytes : ByteArray)
  deriving Inhabited

/-- What bytes hold. -/
def FileContent.ofBytes (bytes : ByteArray) : FileContent :=
  match String.fromUTF8? bytes with
  | some s => text s
  | none => binary bytes

/-- What stands at a place of a file tree. -/
inductive FileNode where
  | file (content : FileContent)
  | directory
  /-- A symbolic link to a path, taken from the directory that the link is in. -/
  | link (target : String)
  deriving Inhabited

/-- Whether a directory stands at a place. -/
def FileNode.isDirectory : FileNode → Bool
  | directory => true
  | _ => false

/-- Whether a file stands at a place. -/
def FileNode.isFile : FileNode → Bool
  | file _ => true
  | _ => false

/-- The names on the way down from the root. -/
abbrev Place := List String

/-- A file tree with a working directory. -/
structure FileTree where
  /-- What stands at each place below the root. -/
  nodes : List (Place × FileNode) := []
  /-- The directory that paths without a slash at the front start from. -/
  workingDirectory : Place := []
  deriving Inhabited

namespace FileTree

/-- What stands at a place. The root is a directory. -/
def node? (tree : FileTree) : Place → Option FileNode
  | [] => some .directory
  | place => tree.nodes.lookup place

/-- Puts a node at a place, in place of the one that was there. -/
def put (tree : FileTree) (place : Place) (node : FileNode) : FileTree :=
  { tree with nodes :=
      if tree.nodes.any fun n => n.1 == place then
        tree.nodes.map fun n => if n.1 = place then (place, node) else n
      else tree.nodes ++ [(place, node)] }

/-! ### From paths to places -/

/-- The number of links that may be met on the way to a place. -/
def maxLinks : Nat := 40

/-- Where a path leads: to a node, or to a free place in a directory. -/
abbrev Arrival := Place × Option FileNode

/-- Follows segments from a place, and at most `links` links on the way. -/
def walk (tree : FileTree) (links : Nat) (place : Place) :
    List (List Char) → Except FileError Arrival
  | [] => .ok (place, tree.node? place)
  | segment :: rest =>
    if (tree.node? place).any FileNode.isDirectory then
      if segment = [] ∨ segment = ['.'] then walk tree links place rest
      else if segment = ['.', '.'] then walk tree links place.dropLast rest
      else
        let next := place ++ [String.ofList segment]
        match tree.node? next with
        | none => if rest.isEmpty then .ok (next, none) else .error .notFound
        | some (.link target) =>
          match links with
          | 0 => .error .tooManyLinks
          | links + 1 =>
            walk tree links (if Path.isAbsolute target then [] else place)
              (Path.segments target ++ rest)
        | some _ => walk tree links next rest
    else .error .notADirectory
termination_by segments => (links, segments.length)

/-- **Where a path leads.** The empty path leads nowhere. -/
def resolve (tree : FileTree) (path : String) : Except FileError Arrival :=
  if path.isEmpty then .error .notFound
  else
    walk tree maxLinks (if Path.isAbsolute path then [] else tree.workingDirectory)
      (Path.segments path)

/-- What stands where a path leads, and where that is. -/
def find (tree : FileTree) (path : String) : Except FileError (Place × FileNode) :=
  match tree.resolve path with
  | .error e => .error e
  | .ok (_, none) => .error .notFound
  | .ok (place, some node) => .ok (place, node)

/-- Whether a path leads to a file. -/
def isFile (tree : FileTree) (path : String) : Bool :=
  match tree.find path with
  | .ok (_, node) => node.isFile
  | .error _ => false

/-- Whether a path leads to a directory. -/
def isDirectory (tree : FileTree) (path : String) : Bool :=
  match tree.find path with
  | .ok (_, node) => node.isDirectory
  | .error _ => false

/-! ### Operations -/

/-- **The text of the file that a path leads to.** -/
def read (tree : FileTree) (path : String) : Except FileError String :=
  match tree.find path with
  | .error e => .error e
  | .ok (_, .file (.text s)) => .ok s
  | .ok (_, .file (.binary _)) => .error .notText
  | .ok (_, .directory) => .error .isADirectory
  | .ok (_, .link _) => .error .tooManyLinks

/-- **Makes a text the content of the file that a path leads to.** The file is made when its
directory has none of that name. -/
def write (tree : FileTree) (path : String) (text : String) : Except FileError FileTree :=
  match tree.resolve path with
  | .error e => .error e
  | .ok (_, some .directory) => .error .isADirectory
  | .ok (place, _) => .ok (tree.put place (.file (.text text)))

/-- The name of the entry of a directory that a place is, if it is one. -/
def nameIn? (directory : Place) (place : Place) : Option String :=
  match place.getLast? with
  | some name => if place.dropLast = directory then some name else none
  | none => none

/-- **The names in the directory at a place**, in increasing order. A file system lists a directory
in an order of its own, of which nothing is known; this is one of them. -/
def entryNames (tree : FileTree) (directory : Place) : List String :=
  (tree.nodes.filterMap fun n => nameIn? directory n.1).mergeSort

/-- The places of the directories above a place, the root aside. -/
def directoriesAbove (place : Place) : List Place :=
  ((List.range place.length).map fun n => place.take n).filter fun p => !p.isEmpty

/-- Puts a node at a place, and directories above it where there is nothing. -/
def add (tree : FileTree) (place : Place) (node : FileNode) : FileTree :=
  let tree := (directoriesAbove place).foldl (fun tree directory =>
    if (tree.node? directory).isSome then tree else tree.put directory .directory) tree
  tree.put place node

end FileTree

end CodeMetrics
