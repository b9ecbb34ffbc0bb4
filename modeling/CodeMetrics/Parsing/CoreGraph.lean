import CodeMetrics.Parsing.Item

/-!
# Cores

The *core* of a kernel is what is left of it without the tokens that may follow: the productions
under way and how far each has come. A grammar has few cores, and many kernels with each.

The *origin* of an item is the rule it belongs to and the number of its steps done. Items of one
kernel with one origin began at the same place, and so have the same followers: a kernel is its core
together with the followers for each origin.

The cores of a grammar and the ways between them form a graph. Along a way every origin of the
target gets its followers from two sources: tokens that follow whatever came before, and the
followers for some origins of the core the way begins in. So the followers in all kernels of a
grammar are passed on along the ways of this one graph.

* `CoreGraph.ofTables` – the cores of a grammar;
* `Feed.apply` – the followers for an origin at the end of a way;
* `CoreGraph.spread` – the followers that arise when they are passed on until nothing changes.
-/

namespace CodeMetrics.Parsing

open Grammar

/-- An item without its followers. -/
structure CoreItem where
  production : Nat
  done : Nat
  deriving BEq, Hashable, Inhabited

namespace CoreItem

/-- The order of the items in a core. -/
def before (a b : CoreItem) : Bool :=
  a.production < b.production || (a.production == b.production && a.done < b.done)

/-- The next symbol of an item. -/
def next? (t : Tables) (i : CoreItem) : Option Nat :=
  match t.productions[i.production]? with
  | some p => (p.steps[i.done]?).map (·.symbol)
  | none => none

/-- The origin of an item: its rule and the steps done. -/
def origin (t : Tables) (i : CoreItem) : Nat × Nat :=
  ((t.productions.getD i.production default).lhs, i.done)

end CoreItem

/-- A core: its items in order, for each one the number of its origin, and the first item with each
origin. -/
structure Core where
  items : Array CoreItem
  origin : Array Nat
  firsts : Array Nat
  deriving Inhabited

namespace Core

/-- The core with some items. -/
def ofItems (t : Tables) (items : Array CoreItem) : Core :=
  let (origin, firsts, _) := items.foldl
    (fun (acc : Array Nat × Array Nat × Array (Nat × Nat)) i =>
      let (origin, firsts, known) := acc
      let own := i.origin t
      match known.findIdx? (· == own) with
      | some k => (origin.push k, firsts, known)
      | none => (origin.push known.size, firsts.push origin.size, known.push own))
    (#[], #[], #[])
  { items, origin, firsts }

/-- The kernel with a core and followers for its origins. -/
def withFollowers (c : Core) (followers : Array Nat) : Kernel :=
  c.items.zipWith (fun i k => ⟨i.production, i.done, followers.getD k 0⟩) c.origin

end Core

/-- Where the followers for an origin come from: tokens that always follow, and the origins at the
beginning of the way, by number, whose followers are taken over. -/
structure Feed where
  followers : Nat := 0
  sources : Array Nat := #[]
  deriving Inhabited

namespace Feed

/-- The followers for an origin, from those at the beginning of the way. -/
def apply (f : Feed) (followers : Array Nat) : Nat :=
  f.sources.foldl (fun acc j => acc ||| followers.getD j 0) f.followers

/-- Two feeds for one origin. -/
def union (f g : Feed) : Feed :=
  { followers := f.followers ||| g.followers
    sources := g.sources.foldl (fun acc j => if acc.contains j then acc else acc.push j) f.sources }

end Feed

/-- A way from a core over a symbol to another core, with the feeds for the origins there. -/
structure Way where
  symbol : Nat
  target : Nat
  feeds : Array Feed
  deriving Inhabited

/-- The cores of a grammar and the ways between them. -/
structure CoreGraph where
  cores : Array Core
  index : Std.HashMap (Array CoreItem) Nat
  ways : Array (Array Way)

namespace CoreGraph

/-! ### Building the graph -/

/-- The feed of what comes next in an item with a given origin: what stands after it, or else what
follows the item itself. -/
def nextFeed (t : Tables) (i : CoreItem) (origin : Nat) : Feed :=
  match (t.productions.getD i.production default).steps[i.done + 1]? with
  | some s => { followers := t.first.getD s.symbol 0 }
  | none => { sources := #[origin] }

/-- The rules that may begin in a core, by number after the tokens, each with its feed. -/
def opened (t : Tables) (core : Core) : Array (Option Feed) :=
  (core.items.zip core.origin).foldl
    (fun (acc : Array (Option Feed)) (i, origin) =>
      match i.next? t with
      | none => acc
      | some s =>
        if s < t.tokenCount then acc
        else
          let outer := nextFeed t i origin
          (t.openings.getD (s - t.tokenCount) #[]).foldl
            (fun (acc : Array (Option Feed)) o =>
              let inner : Feed := { followers := o.followers }
              let feed := if o.propagates then inner.union outer else inner
              acc.modify (o.symbol - t.tokenCount) fun
                | none => some feed
                | some old => some (old.union feed))
            acc)
    (Array.replicate (t.symbols.size - t.tokenCount) none)

/-- The items at the ends of the ways from a core, each with its feed, by the symbol of the way. -/
def ends (t : Tables) (byRule : Array (Array Nat)) (core : Core) :
    Std.HashMap Nat (Array (CoreItem × Feed)) :=
  let add (acc : Std.HashMap Nat (Array (CoreItem × Feed))) (symbol : Nat) (e : CoreItem × Feed) :=
    acc.alter symbol fun
      | none => some #[e]
      | some es => some (es.push e)
  let kernel := (core.items.zip core.origin).foldl
    (fun (acc : Std.HashMap Nat (Array (CoreItem × Feed))) (i, origin) =>
      match i.next? t with
      | some s => add acc s (⟨t.leader i.production (i.done + 1), i.done + 1⟩, { sources := #[origin] })
      | none => acc)
    {}
  ((opened t core).zip byRule).foldl
    (fun (acc : Std.HashMap Nat (Array (CoreItem × Feed))) (feed?, productions) =>
      match feed? with
      | none => acc
      | some feed =>
        productions.foldl
          (fun acc p =>
            match CoreItem.next? t ⟨p, 0⟩ with
            | some s => add acc s (⟨t.leader p 1, 1⟩, feed)
            | none => acc)
          acc)
    kernel

/-- The productions of each rule, by number after the tokens. -/
def productionsOf (t : Tables) : Array (Array Nat) :=
  (Array.range t.productions.size).foldl
    (fun (acc : Array (Array Nat)) p =>
      match t.productions[p]? with
      | some production =>
        if production.steps.isEmpty || p = 0 then acc
        else acc.modify (production.lhs - t.tokenCount) fun ps => ps.push p
      | none => acc)
    (Array.replicate (t.symbols.size - t.tokenCount) #[])

/-- Adds the ways from the cores that have not been looked at, from number `i` on. -/
def explore (t : Tables) (byRule : Array (Array Nat)) : Nat → Nat → CoreGraph → CoreGraph
  | 0, _, g => g
  | fuel + 1, i, g =>
    match g.cores[i]? with
    | none => g
    | some core =>
      let byEnd := ends t byRule core
      let symbols := byEnd.keysArray.qsort (· < ·)
      let (⟨cores, index, ways⟩, own) := symbols.foldl
        (fun (acc : CoreGraph × Array Way) symbol =>
          let (⟨cores, index, ways⟩, own) := acc
          let arrivals := (byEnd.getD symbol #[]).qsort fun a b => a.1.before b.1
          let items := arrivals.map (·.1)
          let feedsOf (c : Core) : Array Feed := c.firsts.map fun k => (arrivals.getD k default).2
          match index[items]? with
          | some j =>
            let feeds := feedsOf (cores.getD j default)
            (⟨cores, index, ways⟩, own.push ⟨symbol, j, feeds⟩)
          | none =>
            let j := cores.size
            let target := Core.ofItems t items
            (⟨cores.push target, index.insert items j, ways⟩,
              own.push ⟨symbol, j, feedsOf target⟩))
        (g, #[])
      explore t byRule fuel (i + 1) ⟨cores, index, ways.push own⟩

/-- The most cores that are looked for. -/
def maxCores : Nat := 100000

/-- **The cores of a grammar.** The first one is that of the start. -/
def ofTables (t : Tables) : CoreGraph :=
  let start := #[⟨0, 0⟩, ⟨t.emptyStart, 0⟩]
  explore t (productionsOf t) maxCores 0
    { cores := #[Core.ofItems t start]
      index := ({} : Std.HashMap (Array CoreItem) Nat).insert start 0
      ways := #[] }

/-! ### Passing followers on -/

/-- Nodes that stand for a core each, and for each way from the core the node it leads to. -/
structure Cover where
  core : Array Nat
  next : Array (Array Nat)

/-- The graph as a cover of itself. -/
def asCover (g : CoreGraph) : Cover :=
  { core := Array.range g.cores.size
    next := g.ways.map fun ways => ways.map (·.target) }

/-- The followers for the origins of each node, and the nodes from which they are still to be passed
on. -/
structure Spreading where
  followers : Array (Array Nat)
  pending : Array Bool

namespace Spreading

/-- Adds followers to those of a node. -/
def add (s : Spreading) (node : Nat) (more : Array Nat) : Spreading :=
  let old := s.followers.getD node #[]
  let new := old.zipWith (· ||| ·) more
  if new == old then s
  else
    let ⟨followers, pending⟩ := s
    ⟨followers.set! node new, pending.set! node true⟩

/-- Passes on the followers of a node. -/
def pass (g : CoreGraph) (c : Cover) (s : Spreading) (node : Nat) : Spreading :=
  if !(s.pending.getD node false) then s
  else
    let own := s.followers.getD node #[]
    let ⟨followers, pending⟩ := s
    ((g.ways.getD (c.core.getD node 0) #[]).zip (c.next.getD node #[])).foldl
      (fun s (way, target) => s.add target (way.feeds.map fun f => f.apply own))
      ⟨followers, pending.set! node false⟩

/-- Passes on the followers of all nodes in turn until nothing changes. -/
def run (g : CoreGraph) (c : Cover) : Nat → Spreading → Spreading
  | 0, s => s
  | fuel + 1, s =>
    if s.pending.any id then run g c fuel ((Array.range c.core.size).foldl (pass g c) s) else s

end Spreading

/-- **The followers for the origins of each node**, where the end of the text follows at the first
one. -/
def spread (g : CoreGraph) (c : Cover) : Array (Array Nat) :=
  let start := c.core.map fun core => (g.cores.getD core default).firsts.map fun _ => 0
  (Spreading.run g c 1000
    { followers := start.modify 0 fun v => v.map fun _ => Tables.bit 0
      pending := Array.replicate c.core.size true }).followers

end CoreGraph

end CodeMetrics.Parsing
