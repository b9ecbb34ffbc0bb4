import CodeMetrics.Parsing.CoreGraph

/-!
# Families of kernels

Two kernels with one core differ only in the tokens that may follow their items. A parser need not
tell them apart as long as they never ask for different actions on a token: it may close a
production on a token that follows it only in the other kernel, and so finds an error a little
later. Kernels that are not told apart are a *family*, and have their followers in common.

The families of a grammar are found in four steps.

* `Relevance` – which followers can decide about an action, here or further on;
* `Contexts` – the kernels of the grammar, as far as they differ in such followers;
* `Partition` – contexts with one core, divided until those that stay together agree in their
  actions (`Merger.conflict`) and lead to contexts that stay together (`Merger.diverge`);
* `Families.ofTables` – what may follow the completed items of each family.
-/

namespace CodeMetrics.Parsing

open Grammar

/-- The tokens of a set. -/
def tokensIn (t : Tables) (set : Nat) : List Nat :=
  if set == 0 then [] else (List.range t.tokenCount).filter set.testBit

/-- The tokens of one set that are not in another. -/
def without (a b : Nat) : Nat := a ^^^ (a &&& b)

/-! ### Followers that matter -/

/-- A completed item of a core: the number of its origin, the tokens that can be shifted and on
which the item, being closed, changes the actions, and those of them on which it is closed only. -/
structure CompletedItem where
  origin : Nat
  contested : Nat
  closedFirst : Nat
  deriving Inhabited

/-- What is known of a core: the tokens that can be shifted, its completed items, and for each
origin the followers that decide about an action. -/
structure CoreInfo where
  shiftable : Nat
  completed : Array CompletedItem
  deciding : Array Nat
  deriving Inhabited

namespace CoreInfo

/-- The tokens acceptable in a core with given followers. -/
def acceptable (c : CoreInfo) (followers : Array Nat) : Nat :=
  c.completed.foldl (fun acc i => acc ||| followers.getD i.origin 0) c.shiftable

/-- The tokens that would be taken for one another if all of a set were acceptable. -/
def confusable (t : Tables) (acceptable : Nat) : Nat :=
  (tokensIn t acceptable).foldl
    (fun acc token =>
      let rivals := t.rivals.getD token 0 &&& acceptable
      if rivals == 0 then acc else acc ||| Tables.bit token ||| rivals)
    0

/-- The followers of the item number `k` of a core that change the actions on tokens that can be
shifted, and those of them on which only the item is closed. -/
def contested (t : Tables) (core : Core) (k tokens : Nat) : Nat × Nat :=
  let bare := core.withFollowers #[]
  (tokensIn t tokens).foldl
    (fun (acc : Nat × Nat) token =>
      let kernel : Kernel := bare.modify k fun i => { i with followers := Tables.bit token }
      match kernel.actions t true token with
      | [.shift _] => acc
      | actions =>
        let shifts := actions.any fun | .shift _ => true | _ => false
        (acc.1 ||| Tables.bit token, if shifts then acc.2 else acc.2 ||| Tables.bit token))
    (0, 0)

/-- What is known of a core of which the origins have at most the given followers. -/
def ofCore (t : Tables) (core : Core) (followers : Array Nat) : CoreInfo :=
  let kernel := core.withFollowers followers
  let shiftable := kernel.shiftable t
  let acceptable := shiftable ||| kernel.closing t
  let distinct := without acceptable t.resuming ||| confusable t acceptable
  let completed := (Array.range core.items.size).filter fun k =>
    ((core.items.getD k default).next? t).isNone
  let origin (k : Nat) : Nat := core.origin.getD k 0
  let own (k : Nat) : Nat := followers.getD (origin k) 0
  let others (k : Nat) : Nat :=
    completed.foldl (fun acc j => if j == k then acc else acc ||| own j) 0
  let (items, deciding) := completed.foldl
    (fun (acc : Array CompletedItem × Array Nat) k =>
      let (contested, closedFirst) := contested t core k (own k &&& shiftable)
      let deciding := own k &&& (contested ||| distinct ||| others k)
      (acc.1.push ⟨origin k, contested, closedFirst⟩,
        acc.2.modify (origin k) fun old => old ||| deciding))
    (#[], core.firsts.map fun _ => 0)
  { shiftable, completed := items, deciding }

end CoreInfo

/-- For each core and each origin the followers that can decide about an action, here or further
on. -/
abbrev Relevance := Array (Array Nat)

namespace Relevance

/-- Adds for a core what matters at the ends of the ways from it. -/
def collect (g : CoreGraph) (acc : Relevance × Bool) (core : Nat) : Relevance × Bool :=
  let (r, changed) := acc
  let old := r.getD core #[]
  let new := (g.ways.getD core #[]).foldl
    (fun (own : Array Nat) way =>
      (way.feeds.zip (r.getD way.target #[])).foldl
        (fun own (feed, matters) =>
          feed.sources.foldl (fun own j => own.modify j fun old => old ||| matters) own)
        own)
    old
  if new == old then (r, changed) else (r.set! core new, true)

/-- Collects for all cores, the last first, until nothing changes. -/
def run (g : CoreGraph) : Nat → Relevance → Relevance
  | 0, r => r
  | fuel + 1, r =>
    match (Array.range g.cores.size).foldr (fun core acc => collect g acc core) (r, false) with
    | (r, true) => run g fuel r
    | (r, false) => r

/-- The followers that matter, from those that decide about an action in a core itself. -/
def ofInfos (g : CoreGraph) (infos : Array CoreInfo) : Relevance :=
  run g 1000 (infos.map (·.deciding))

end Relevance

/-! ### Contexts -/

/-- A core with those followers for its origins that matter. -/
structure Context where
  core : Nat
  followers : Array Nat
  deriving BEq, Inhabited

/-- A prime number of about 63 bits, by which large sets are reduced to a hash. -/
def largePrime : Nat := 9223372036854775783

instance : Hashable Context where
  hash c := c.followers.foldl (fun h f => mixHash h (hash (f % largePrime))) (hash c.core)

/-- The contexts of a grammar; for each one the contexts its ways lead to. -/
structure Contexts where
  all : Array Context
  index : Std.HashMap Context Nat
  next : Array (Array Nat)

namespace Contexts

/-- The context at the end of a way. -/
def after (r : Relevance) (c : Context) (way : Way) : Context :=
  { core := way.target
    followers := way.feeds.zipWith (fun f m => f.apply c.followers &&& m) (r.getD way.target #[]) }

/-- Looks at the contexts from number `i` on. -/
def explore (g : CoreGraph) (r : Relevance) : Nat → Nat → Contexts → Contexts
  | 0, _, cs => cs
  | fuel + 1, i, cs =>
    match cs.all[i]? with
    | none => cs
    | some c =>
      let (⟨all, index, next⟩, own) := (g.ways.getD c.core #[]).foldl
        (fun (acc : Contexts × Array Nat) way =>
          let (⟨all, index, next⟩, own) := acc
          let target := after r c way
          match index[target]? with
          | some j => (⟨all, index, next⟩, own.push j)
          | none =>
            let j := all.size
            (⟨all.push target, index.insert target j, next⟩, own.push j))
        (cs, #[])
      explore g r fuel (i + 1) ⟨all, index, next.push own⟩

/-- The most contexts that are looked for. -/
def maxContexts : Nat := 1000000

/-- The contexts of a grammar. -/
def ofRelevance (g : CoreGraph) (r : Relevance) : Contexts :=
  let start : Context :=
    { core := 0, followers := (r.getD 0 #[]).map fun m => Tables.bit 0 &&& m }
  explore g r maxContexts 0
    { all := #[start], index := ({} : Std.HashMap Context Nat).insert start 0, next := #[] }

/-- The contexts as nodes that stand for their cores. -/
def asCover (cs : Contexts) : CoreGraph.Cover :=
  { core := cs.all.map (·.core), next := cs.next }

end Contexts

/-! ### Dividing contexts -/

/-- A division of contexts, by number, and the part each context belongs to. -/
structure Partition where
  parts : Array (Array Nat)
  part : Array Nat

namespace Partition

/-- All contexts with one core in one part. -/
def byCore (g : CoreGraph) (cs : Contexts) : Partition :=
  { parts := (Array.range cs.all.size).foldl
      (fun (acc : Array (Array Nat)) i =>
        acc.modify (cs.all.getD i default).core fun members => members.push i)
      (Array.replicate g.cores.size #[])
    part := cs.all.map (·.core) }

/-- Goes through a part in order, and moves out every member that cannot stay with one before it. -/
def divide (apart : Nat → Nat → Bool) (members : Array Nat) : Array Nat × Array Nat :=
  members.foldl
    (fun (acc : Array Nat × Array Nat) r =>
      let (kept, moved) := acc
      if kept.any fun l => apart l r then (kept, moved.push r) else (kept.push r, moved))
    (#[], #[])

/-- Divides the parts from number `i` on, including those that arise; says whether any was
divided. -/
def refine (apart : Array Nat → Nat → Nat → Bool) : Nat → Nat → Bool → Partition → Partition × Bool
  | 0, _, changed, p => (p, changed)
  | fuel + 1, i, changed, p =>
    match p.parts[i]? with
    | none => (p, changed)
    | some members =>
      let (kept, moved) := divide (apart p.part) members
      if moved.isEmpty then refine apart fuel (i + 1) changed p
      else
        let ⟨parts, part⟩ := p
        let number := parts.size
        refine apart fuel (i + 1) true
          { parts := (parts.set! i kept).push moved
            part := moved.foldl (fun (acc : Array Nat) s => acc.set! s number) part }

/-- Divides parts again and again until none is divided. -/
def refineAll (apart : Array Nat → Nat → Nat → Bool) (bound : Nat) : Nat → Partition → Partition
  | 0, p => p
  | fuel + 1, p =>
    match p.refine apart bound 0 false with
    | (p, true) => refineAll apart bound fuel p
    | (p, false) => p

end Partition

/-- What contexts are compared by. -/
structure Merger where
  tables : Tables
  graph : CoreGraph
  infos : Array CoreInfo
  contexts : Contexts
  /-- The tokens acceptable in each context. -/
  acceptable : Array Nat
  /-- The tokens that could be shifted in a context but close a production instead. -/
  givenUp : Array Nat
  /-- The tokens that would be read in place of others. -/
  takers : Nat
  /-- The same tokens one by one, with those others. -/
  rivals : Array (Nat × Nat)

namespace Merger

/-- What the contexts of a grammar are compared by, given what may follow in each. -/
def ofContexts (t : Tables) (graph : CoreGraph) (infos : Array CoreInfo) (contexts : Contexts)
    (followers : Array (Array Nat)) : Merger :=
  let infoOf (c : Context) : CoreInfo := infos.getD c.core default
  let rivals := (Array.range t.tokenCount).filterMap fun token =>
    let others := t.rivals.getD token 0
    if others == 0 then none else some (token, others)
  { tables := t
    graph
    infos
    contexts
    acceptable := contexts.all.zipWith (fun c fs => (infoOf c).acceptable fs) followers
    givenUp := contexts.all.map fun c =>
      (infoOf c).completed.foldl
        (fun acc i => acc ||| (c.followers.getD i.origin 0 &&& i.closedFirst)) 0
    takers := rivals.foldl (fun acc (token, _) => acc ||| Tables.bit token) 0
    rivals }

/-- Whether a context would come to accept a token that must be kept apart from its own tokens:
`more` are the tokens it would accept besides, `own` its own. -/
def blurs (m : Merger) (more own : Nat) : Bool :=
  without more m.tables.resuming != 0 ||
    (more &&& m.takers != 0 &&
      m.rivals.any fun (token, others) => more.testBit token && others &&& own != 0)

/-- Whether two contexts with one core ask for different actions on a token that is acceptable in
both. -/
def disagree (m : Merger) (l r : Nat) : Bool :=
  let a := m.contexts.all.getD l default
  let b := m.contexts.all.getD r default
  let info := m.infos.getD a.core default
  let differing := info.completed.foldl
    (fun acc i => acc ||| (a.followers.getD i.origin 0 ^^^ b.followers.getD i.origin 0)) 0
  let common := differing &&& m.acceptable.getD l 0 &&& m.acceptable.getD r 0
  if common == 0 then false
  else if info.completed.size == 1 then
    -- the token is shifted in both, and the item is closed on it in only one of them
    info.completed.any fun i => i.contested &&& common != 0
  else
    let core := m.graph.cores.getD a.core default
    let left := core.withFollowers a.followers
    let right := core.withFollowers b.followers
    (tokensIn m.tables common).any fun token =>
      let canShift := info.shiftable.testBit token
      left.actions m.tables canShift token != right.actions m.tables canShift token

/-- **Whether two contexts with one core have to be told apart.** -/
def conflict (m : Merger) (l r : Nat) : Bool :=
  let a := m.acceptable.getD l 0
  let b := m.acceptable.getD r 0
  m.blurs (without a b) b || m.blurs (without b a) a || m.disagree l r

/-- Whether two contexts with one core lead to different parts over some symbol. -/
def diverge (m : Merger) (part : Array Nat) (l r : Nat) : Bool :=
  let a := m.contexts.next.getD l #[]
  let b := m.contexts.next.getD r #[]
  let givenUp := m.givenUp.getD l 0 ||| m.givenUp.getD r 0
  (Array.range a.size).any fun w =>
    part.getD (a.getD w 0) 0 != part.getD (b.getD w 0) 0 &&
      let ways := m.graph.ways.getD (m.contexts.all.getD l default).core #[]
      let symbol := (ways.getD w default).symbol
      !(symbol < m.tables.tokenCount && givenUp.testBit symbol)

/-- The contexts divided into families. -/
def partition (m : Merger) : Partition :=
  let n := m.contexts.all.size
  let bound := m.graph.cores.size + n
  let (p, _) := (Partition.byCore m.graph m.contexts).refine (fun _ => m.conflict) bound 0 false
  p.refineAll m.diverge bound n

end Merger

/-! ### Families -/

/-- A family: its core, the followers for each origin, and for each way from the core the family it
leads to. -/
structure Family where
  core : Nat
  followers : Array Nat
  next : Array Nat

/-- The families of a grammar. -/
structure Families where
  graph : CoreGraph
  all : Array Family

namespace Families

/-- The family of some contexts that are not told apart. -/
def familyOf (contexts : Contexts) (followers : Array (Array Nat)) (part : Array Nat)
    (members : Array Nat) : Family :=
  let first := members.getD 0 0
  { core := (contexts.all.getD first default).core
    followers := members.foldl
      (fun (acc : Array Nat) s => acc.zipWith (· ||| ·) (followers.getD s #[]))
      (followers.getD first #[])
    next := (contexts.next.getD first #[]).map fun s => part.getD s 0 }

/-- **The families of a grammar.** The first one is that of the start. -/
def ofTables (t : Tables) : Families :=
  let graph := CoreGraph.ofTables t
  let infos := graph.cores.zipWith (CoreInfo.ofCore t) (graph.spread graph.asCover)
  let contexts := Contexts.ofRelevance graph (Relevance.ofInfos graph infos)
  let followers := graph.spread contexts.asCover
  let p := (Merger.ofContexts t graph infos contexts followers).partition
  { graph, all := p.parts.map (familyOf contexts followers p.part) }

end Families

end CodeMetrics.Parsing
