import CodeMetrics.Parsing.Subtree

/-!
# The graph-structured stack

The stacks of all parses under way share their common parts. A node of the graph is a state of the
automaton at a place in the text; a link leads to the node below, over the tree that was pushed in
between. A *version* is one parse: the node on top of its stack, and whether it is active, paused
at a token it cannot take, or halted.

* `Stack.push` – pushes a tree on a version;
* `Stack.popPaths` – the ways down from a version over a number of trees;
* `Stack.merge?` – makes one version out of two in the same state at the same place.
-/

namespace CodeMetrics.Parsing

open Grammar

/-- A link to the node below, with the tree in between; no tree where the parser lost its place. -/
structure Link where
  node : Nat
  tree : Option Subtree
  deriving Inhabited

/-- A node of the stack. -/
structure StackNode where
  state : Nat
  place : Nat
  links : Array Link
  cost : Nat := 0
  progress : Nat := 0
  dynamic : Int := 0
  deriving Inhabited

/-- Whether a parse goes on. -/
inductive Status where
  | active
  /-- Stopped at a token it cannot take. -/
  | paused (lookahead : Subtree)
  | halted
  deriving Inhabited

/-- A state below the top of a stack: the place and depth where it is found. -/
structure Below where
  place : Nat
  depth : Nat
  state : Nat
  deriving Inhabited

/-- One parse under way. -/
structure Version where
  node : Nat
  status : Status := .active
  /-- The progress made when the parse last lost its place. -/
  progressAtError : Nat := 0
  /-- The states below the top, recorded when the parse lost its place. -/
  below : Array Below := #[]
  /-- The delimiter of a raw string that has been opened and not yet closed. -/
  delimiter : List Char := []
  deriving Inhabited

/-- The stacks of all parses under way. -/
structure Stack where
  nodes : Array StackNode
  versions : Array Version
  deriving Inhabited

namespace Stack

/-- The most links a node has, and the most ways down that are followed at once. -/
def maxLinks : Nat := 8

/-- The most ways down that are followed at once. -/
def maxPaths : Nat := 64

/-- The stack with one version in a state at the beginning of the text. -/
def start (state : Nat) : Stack :=
  { nodes := #[{ state, place := 0, links := #[] }]
    versions := #[{ node := 0 }] }

/-- The node with a number. -/
def node (s : Stack) (n : Nat) : StackNode := s.nodes.getD n default

/-- A version. -/
def version (s : Stack) (v : Nat) : Version := s.versions.getD v default

/-- The node on top of a version. -/
def top (s : Stack) (v : Nat) : StackNode := s.node (s.version v).node

/-- The state of a version. -/
def state (s : Stack) (v : Nat) : Nat := (s.top v).state

/-- The place a version has come to. -/
def place (s : Stack) (v : Nat) : Nat := (s.top v).place

/-- Whether a version goes on. -/
def isActive (s : Stack) (v : Nat) : Bool :=
  match (s.version v).status with
  | .active => true
  | _ => false

/-- Whether a version is paused. -/
def isPaused (s : Stack) (v : Nat) : Bool :=
  match (s.version v).status with
  | .paused _ => true
  | _ => false

/-- Whether a version is halted. -/
def isHalted (s : Stack) (v : Nat) : Bool :=
  match (s.version v).status with
  | .halted => true
  | _ => false

/-- The number of versions that are halted. -/
def haltedCount (s : Stack) : Nat :=
  ((Array.range s.versions.size).filter s.isHalted).size

/-- Stops a version for good. -/
def halt (s : Stack) (v : Nat) : Stack :=
  { s with versions := s.versions.modify v fun h => { h with status := .halted } }

/-- Stops a version at a token it cannot take. -/
def pause (s : Stack) (v : Nat) (lookahead : Subtree) : Stack :=
  let progress := (s.top v).progress
  { s with versions := s.versions.modify v fun h =>
      { h with status := .paused lookahead, progressAtError := progress } }

/-- Removes a version. -/
def remove (s : Stack) (v : Nat) : Stack :=
  { s with versions := s.versions.eraseIdxIfInBounds v }

/-- Puts the version `source` in the place of the version `target`, and removes it from its own.
What `target` recorded of the states below it is kept when `source` has recorded nothing. -/
def renumber (s : Stack) (source target : Nat) : Stack :=
  if source = target then s
  else
    let old := s.version target
    let new := s.version source
    let new := if new.below.isEmpty then { new with below := old.below } else new
    { s with versions := (s.versions.set! target new).eraseIdxIfInBounds source }

/-- Exchanges two versions. -/
def swap (s : Stack) (v w : Nat) : Stack :=
  let a := s.version v
  let b := s.version w
  { s with versions := (s.versions.set! v b).set! w a }

/-- Copies a version to the end. -/
def copy (s : Stack) (v : Nat) : Nat × Stack :=
  let h := { s.version v with below := #[] }
  (s.versions.size, { s with versions := s.versions.push h })

/-- The cost of errors of a version. -/
def cost (s : Stack) (v : Nat) : Nat :=
  let top := s.top v
  let lostHere := top.state == 0 && match top.links[0]? with
    | some l => l.tree.isNone
    | none => false
  top.cost + (if s.isPaused v || lostHere then Subtree.costs.recovery else 0)

/-- The progress of a version since it last lost its place. -/
def progressSinceError (s : Stack) (v : Nat) : Nat :=
  (s.top v).progress - (s.version v).progressAtError

/-- **Pushes a tree on a version**, or a mark that the place has been lost. -/
def push (t : Tables) (s : Stack) (v : Nat) (tree : Option Subtree) (state : Nat) : Stack :=
  let below := (s.version v).node
  let previous := s.node below
  let new : StackNode := match tree with
    | some tree =>
      { state
        place := tree.stop
        links := #[⟨below, some tree⟩]
        cost := previous.cost + tree.cost
        progress := previous.progress + tree.progress t
        dynamic := previous.dynamic + tree.dynamic }
    | none => { previous with state, links := #[⟨below, none⟩] }
  let number := s.nodes.size
  let lost := tree.isNone
  { nodes := s.nodes.push new
    versions := s.versions.modify v fun h =>
      { h with
        node := number
        progressAtError := if lost then new.progress else h.progressAtError } }

/-! ### Ways down -/

/-- A way down from the top: the node reached, the trees passed, last first, and how many of them
count. -/
structure Path where
  node : Nat
  trees : List Subtree := []
  count : Nat := 0

/-- The path over one more link. -/
def Path.over (p : Path) (l : Link) : Path :=
  match l.tree with
  | some tree =>
    { node := l.node, trees := tree :: p.trees, count := if tree.extra then p.count else p.count + 1 }
  | none => { p with node := l.node, count := p.count + 1 }

/-- One round over the paths under way: those that satisfy `done` are collected, the others
go on over the links of their nodes. -/
def stepPaths (s : Stack) (done : Path → Bool) (paths : List Path) :
    List Path × List Path :=
  let size := paths.length
  let (finished, kept, added, _) := paths.foldl
    (fun (acc : List Path × List Path × List Path × Nat) p =>
      let (finished, kept, added, size) := acc
      let node := s.node p.node
      if done p then (finished ++ [p], kept, added, size - 1)
      else match node.links.toList with
        | [] => (finished, kept, added, size - 1)
        | l :: ls =>
          let room := maxPaths - size
          let others := (ls.take room).map p.over
          (finished, kept ++ [p.over l], added ++ others, size + others.length))
    ([], [], [], size)
  (finished, kept ++ added)

/-- Follows paths until none is left, and collects the finished ones in order. -/
def followPaths (s : Stack) (done : Path → Bool) : Nat → List Path → List Path
  | 0, _ => []
  | fuel + 1, paths =>
    if paths.isEmpty then []
    else
      let (finished, going) := s.stepPaths done paths
      finished ++ followPaths s done fuel going

/-- A way down from a version: the version made for the node reached, and the trees passed. -/
structure Slice where
  version : Nat
  trees : Array Subtree

/-- Makes versions for the nodes that paths have reached; paths to one node share a version and
stand side by side. -/
def addSlices (s : Stack) (v : Nat) (paths : List Path) : List Slice × Stack :=
  let origin := s.version v
  paths.foldl
    (fun (acc : List Slice × Stack) p =>
      let (slices, s) := acc
      let trees := p.trees.toArray
      match slices.reverse.findIdx? fun sl => (s.version sl.version).node == p.node with
      | some back =>
        let at' := slices.length - back
        let number := ((slices[at' - 1]?).map (·.version)).getD 0
        (slices.take at' ++ [⟨number, trees⟩] ++ slices.drop at', s)
      | none =>
        let number := s.versions.size
        let h : Version :=
          { node := p.node, progressAtError := origin.progressAtError, delimiter := origin.delimiter }
        (slices ++ [⟨number, trees⟩], { s with versions := s.versions.push h }))
    ([], s)

/-- **The ways down over a number of trees**, as new versions. -/
def popCount (s : Stack) (v count : Nat) : List Slice × Stack :=
  let start : Path := { node := (s.version v).node }
  s.addSlices v (s.followPaths (fun p => p.count == count) (s.nodes.size + 2) [start])

/-- The ways down to the bottom, as new versions. -/
def popAll (s : Stack) (v : Nat) : List Slice × Stack :=
  let start : Path := { node := (s.version v).node }
  s.addSlices v
    (s.followPaths (fun p => (s.node p.node).links.isEmpty) (s.nodes.size + 2) [start])

/-- Removes a node of unparsed text from the top of a version, and gives its trees. -/
def popError (t : Tables) (s : Stack) (v : Nat) : Option Subtree × Stack :=
  let top := s.top v
  let found := top.links.toList.findSome? fun l =>
    match l.tree with
    | some tree => if tree.isError t then some (tree, l.node) else none
    | none => none
  match found with
  | some (tree, below) =>
    (some tree, { s with versions := s.versions.modify v fun h =>
        { h with node := below, status := .active } })
  | none => (none, s)

/-- The states below the top of a version, down to a depth. -/
def summarize (s : Stack) (v maxDepth : Nat) : Array Below :=
  let rec go : Nat → List Path → Array Below → Array Below
    | 0, _, acc => acc
    | fuel + 1, paths, acc =>
      if paths.isEmpty then acc
      else
        let inRange := paths.filter fun p => p.count ≤ maxDepth
        let acc := inRange.foldl
          (fun (acc : Array Below) p =>
            let node := s.node p.node
            if acc.any fun b => b.depth == p.count && b.state == node.state then acc
            else acc.push ⟨node.place, p.count, node.state⟩)
          acc
        let (_, going) := s.stepPaths (fun _ => false) inRange
        go fuel going acc
  go (s.nodes.size + 2) [{ node := (s.version v).node }] #[]

/-- Records the states below the top of a version. -/
def recordBelow (s : Stack) (v maxDepth : Nat) : Stack :=
  let below := s.summarize v maxDepth
  { s with versions := s.versions.modify v fun h => { h with below } }

/-! ### Merging -/

/-- Whether trees on two links may be taken for one. -/
def sameTree : Option Subtree → Option Subtree → Bool
  | none, none => true
  | some a, some b => a.isEquivalent b
  | _, _ => false

/-- The dynamic precedence of the tree on a link. -/
def linkDynamic (l : Link) : Int := (l.tree.map (·.dynamic)).getD 0

/-- What is to be done with a new link at a node that has the link `old`. -/
inductive LinkCase where
  | unrelated
  /-- The new link leads to the same node over the same text. -/
  | same
  /-- The nodes that both lead to are in one state at one place. -/
  | mergeable
  deriving DecidableEq

/-- Compares a new link with an old one. -/
def linkCase (s : Stack) (old new : Link) : LinkCase :=
  if sameTree old.tree new.tree then
    if old.node == new.node then .same
    else
      let a := s.node old.node
      let b := s.node new.node
      if a.state == b.state && a.place == b.place && a.cost == b.cost then .mergeable
      else .unrelated
  else .unrelated

/-- Adds a link to a node. A link over the same text to the same node only replaces the old one if
its tree has a higher dynamic precedence; when the nodes below can be merged, they are. -/
def addLink (t : Tables) : Nat → Nat → Link → Stack → Stack
  | 0, _, _, s => s
  | fuel + 1, n, new, s =>
    if new.node == n then s
    else
      let links := (s.node n).links
      match links.findIdx? fun old => linkCase s old new != .unrelated with
      | some i =>
        let old := links.getD i default
        let below := s.node new.node
        if linkCase s old new == .same then
          if linkDynamic new > linkDynamic old then
            { s with nodes := s.nodes.modify n fun x =>
                { x with
                  links := x.links.set! i new
                  dynamic := below.dynamic + linkDynamic new } }
          else s
        else
          let s := below.links.foldl (fun s l => addLink t fuel old.node l s) s
          let dynamic := below.dynamic + linkDynamic new
          { s with nodes := s.nodes.modify n fun x => { x with dynamic := max x.dynamic dynamic } }
      | none =>
        if links.size ≥ maxLinks then s
        else
          let below := s.node new.node
          let progress := below.progress + ((new.tree.map (·.progress t)).getD 0)
          let dynamic := below.dynamic + linkDynamic new
          { s with nodes := s.nodes.modify n fun x =>
              { x with
                links := x.links.push new
                progress := max x.progress progress
                dynamic := max x.dynamic dynamic } }

/-- Whether two versions can be made one. -/
def canMerge (s : Stack) (v w : Nat) : Bool :=
  let a := s.top v
  let b := s.top w
  s.isActive v && s.isActive w && a.state == b.state && a.place == b.place && a.cost == b.cost &&
    (s.version v).delimiter == (s.version w).delimiter

/-- **Makes one version of two**, if they are in one state at one place: the first takes over the
links of the second, which is removed. -/
def merge? (t : Tables) (s : Stack) (v w : Nat) : Option Stack :=
  if s.canMerge v w then
    let n := (s.version v).node
    let s := (s.top w).links.foldl (fun s l => addLink t 1000 n l s) s
    let top := s.node n
    let s := if top.state == 0 then
        { s with versions := s.versions.modify v fun h => { h with progressAtError := top.progress } }
      else s
    some (s.remove w)
  else none

end Stack

end CodeMetrics.Parsing
