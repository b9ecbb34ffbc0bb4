import CodeMetrics.Parsing.Automaton
import CodeMetrics.Parsing.Lexer
import CodeMetrics.Parsing.RawString
import CodeMetrics.Parsing.Stack

/-!
# The parsing machine

A parse follows every action its grammar leaves open, each in a version of the stack, and drops
versions that fall behind. When no version can take the next token, one of them recovers: it may
invent a token, or go back to a state in which the token makes sense and wrap what it skips in an
error node.

* `Machine.advance` – lets a version act until it has taken a token;
* `Machine.recover`, `Machine.handleError` – find a place to resume;
* `Machine.condense` – compares the versions and drops the worse ones;
* `Machine.run` – the whole parse.
-/

namespace CodeMetrics.Parsing

open Grammar

/-- What a parse consists of. -/
structure Machine where
  lex : LexTables
  source : Source
  automaton : Automaton
  stack : Stack
  finished : Option Subtree := none
  /-- How often a parse has reached the end. -/
  accepted : Nat := 0

namespace Machine

/-- The most versions that are kept. -/
def maxVersions : Nat := 6

/-- How many more versions there may be for a moment. -/
def versionOverflow : Nat := 4

/-- How far down the stack a place to resume is looked for. -/
def maxDepth : Nat := 16

/-- The difference in cost, weighted by progress, at which a version is dropped. -/
def maxCostDifference : Nat := 18 * Subtree.costs.skippedTree

/-- The tables of the grammar. -/
def tables (m : Machine) : Tables := m.automaton.tables

/-! ### Reading tokens -/

/-- The tokens to look for where a set of tokens is acceptable: reserved words are read as words. -/
def lexSet (t : Tables) (acceptable : Nat) : Nat :=
  let plain := acceptable &&& (acceptable ^^^ (acceptable &&& (t.reservedSet ||| t.scanned)))
  if acceptable &&& t.reservedSet != 0 then plain ||| Tables.bit t.word else plain

/-- The place where reading begins: a byte order mark at the very beginning is passed over. -/
def afterMark (source : Source) (place : Nat) : Nat :=
  if place = 0 && source.chars[0]? == some '\uFEFF' then 1 else place

/-- The scanned tokens of a grammar: delimiter and content of a raw string. -/
def scannedTokens (t : Tables) : List Nat :=
  (List.range t.tokenCount).filter t.scanned.testBit

/-- A token of a raw string at a place, where one is acceptable and not the other. -/
def scan? (m : Machine) (acceptable place : Nat) (delimiter : List Char) : Option Subtree :=
  if acceptable &&& m.tables.scanned == 0 then none
  else match scannedTokens m.tables with
    | [mark, content] =>
      if acceptable.testBit mark && acceptable.testBit content then none
      else if acceptable.testBit mark then
        (RawString.delimiter? m.source place delimiter).map fun (stop, after) =>
          { Subtree.leaf mark place place stop false with delimiter := some after }
      else
        let stop := RawString.contentEnd m.source delimiter (m.source.size + 1 - place) place
        some { Subtree.leaf content place place stop false with delimiter := some delimiter }
    | _ => none

/-- The token found by a pattern, with reserved words told from others. -/
def tokenTree (m : Machine) (state place start token stop : Nat) : Subtree :=
  let t := m.tables
  if token == t.word then
    match t.reserved[m.source.slice start stop]? with
    | some r =>
      Subtree.leaf (if m.automaton.accepts state r then r else token) place start stop true
    | none => Subtree.leaf token place start stop false
  else Subtree.leaf token place start stop false

/-- Skips characters that begin no token. `first` is where the skipped text begins, once it has. -/
def skipUnknown (m : Machine) (set place : Nat) : Nat → Nat → Option Nat → Nat → Subtree
  | 0, _, first, stop =>
    Subtree.leaf (Subtree.errorSymbol m.tables) place (first.getD place) stop false
  | fuel + 1, current, first, stop =>
    let lexed := Lexed.read m.lex m.source set (afterMark m.source current)
    match lexed.found, first with
    | some _, some first => Subtree.leaf (Subtree.errorSymbol m.tables) place first stop false
    | some (token, stop'), none => tokenTree m Automaton.lost place lexed.start token stop'
    | none, _ =>
      let (begin', stop) := match first with
        | some b => (b, stop)
        | none => (lexed.start, lexed.start)
      if lexed.reached == stop then
        if lexed.reached ≥ m.source.size then
          Subtree.leaf (Subtree.errorSymbol m.tables) place begin' stop false
        else skipUnknown m set place fuel (lexed.reached + 1) (some begin') (lexed.reached + 1)
      else skipUnknown m set place fuel lexed.reached (some begin') lexed.reached

/-- **The token at the place a version has come to.** When none of the acceptable tokens is there,
any token is looked for, and characters that begin none are skipped. -/
def readToken (m : Machine) (v : Nat) : Subtree :=
  let state := m.stack.state v
  let place := m.stack.place v
  let acceptable := (m.automaton.state state).acceptable
  match m.scan? acceptable place (m.stack.version v).delimiter with
  | some tree => tree
  | none =>
    let from' := afterMark m.source place
    let read (acceptable : Nat) : Option Subtree :=
      let lexed := Lexed.read m.lex m.source (lexSet m.tables acceptable) from'
      lexed.found.map fun (token, stop) => tokenTree m state place lexed.start token stop
    let all := (m.automaton.state Automaton.lost).acceptable
    match (read acceptable).orElse fun _ => read all with
    | some tree => tree
    | none => skipUnknown m (lexSet m.tables all) place (m.source.size + 2 - place) place none place

/-! ### Reductions -/

/-- Changes the stack. -/
@[inline] def mapStack (m : Machine) (f : Tables → Stack → Stack) : Machine :=
  let ⟨lex, source, automaton, stack, finished, accepted⟩ := m
  let t := automaton.tables
  ⟨lex, source, automaton, f t stack, finished, accepted⟩

/-- Pushes a tree on a version. -/
def push (m : Machine) (v : Nat) (tree : Option Subtree) (state : Nat) : Machine :=
  m.mapStack fun t s => s.push t v tree state

/-- Merges a version into one of those before it, leaving out one, if possible. -/
def mergeDown (t : Tables) (s : Stack) (candidates : List Nat) (w : Nat) : Option Stack :=
  candidates.findSome? fun j => s.merge? t j w

/-- Groups slices that share a version. -/
def groupSlices : List Stack.Slice → List (Nat × List (Array Subtree))
  | [] => []
  | sl :: rest =>
    match groupSlices rest with
    | (v, ts) :: groups =>
      if v == sl.version then (v, sl.trees :: ts) :: groups
      else (sl.version, [sl.trees]) :: (v, ts) :: groups
    | [] => [(sl.version, [sl.trees])]

/-- **Replaces the last nodes of a version by one for a production**, along every way down. The new
stacks are new versions, merged with earlier ones where they agree; the result is the first version
that is new. -/
def reduce (m : Machine) (v production : Nat) : Option Nat × Machine :=
  let t := m.tables
  match t.productions[production]? with
  | none => (none, m)
  | some p =>
    let initialCount := m.stack.versions.size
    let halted := m.stack.haltedCount
    let (slices, stack) := m.stack.popCount v p.steps.size
    let m := { m with stack }
    let (m, _) := (groupSlices slices).foldl
      (fun (acc : Machine × Nat) (number, choices) =>
        let (m, removed) := acc
        let w := number - removed
        if w > maxVersions + versionOverflow + halted then
          (m.mapStack fun _ s => s.remove w, removed + 1)
        else
          let place := m.stack.place w
          let best := choices.foldl
            (fun (best : Option (Subtree × Array Subtree)) trees =>
              let (children, extras) := Subtree.splitTrailingExtras trees
              match best with
              | none => some (Subtree.node t m.source p.lhs children (some production) place, extras)
              | some (left, _) =>
                let right := Subtree.node t m.source p.lhs children (some production) place
                if left.isWorse right then some (right, extras) else best)
            none
          match best with
          | none => (m, removed)
          | some (parent, extras) =>
            let parent := { parent with dynamic := parent.dynamic + p.dynamic }
            let next := m.automaton.goto (m.stack.state w) p.lhs
            let m := m.push w (some parent) next
            let m := extras.foldl (fun (m : Machine) e => m.push w (some e) next) m
            match mergeDown t m.stack ((List.range w).filter (· != v)) w with
            | some stack => ({ m with stack }, removed + 1)
            | none => (m, removed))
      (m, 0)
    (if m.stack.versions.size > initialCount then some initialCount else none, m)

/-! ### Comparing versions -/

/-- What versions are compared by. -/
structure Standing where
  cost : Nat
  progress : Nat
  dynamic : Int
  inError : Bool

/-- The standing of a version. -/
def standing (s : Stack) (v : Nat) : Standing :=
  let paused := s.isPaused v
  { cost := s.cost v + (if paused then Subtree.costs.skippedTree else 0)
    progress := s.progressSinceError v
    dynamic := (s.top v).dynamic
    inError := paused || s.state v == Automaton.lost }

/-- The outcome of comparing two versions; `take` drops the other one. -/
inductive Verdict where
  | takeLeft
  | preferLeft
  | none
  | preferRight
  | takeRight
  deriving DecidableEq

/-- Compares two versions. -/
def Standing.compare (a b : Standing) : Verdict :=
  if !a.inError && b.inError then if a.cost < b.cost then .takeLeft else .preferLeft
  else if a.inError && !b.inError then if b.cost < a.cost then .takeRight else .preferRight
  else if a.cost < b.cost then
    if (b.cost - a.cost) * (1 + a.progress) > maxCostDifference then .takeLeft else .preferLeft
  else if b.cost < a.cost then
    if (a.cost - b.cost) * (1 + b.progress) > maxCostDifference then .takeRight else .preferRight
  else if a.dynamic > b.dynamic then .preferLeft
  else if b.dynamic > a.dynamic then .preferRight
  else .none

/-- Whether some version, or a finished parse, is clearly better than `v` would be at a cost. -/
def betterExists (m : Machine) (v : Nat) (inError : Bool) (cost : Nat) : Bool :=
  let s := m.stack
  let done := match m.finished with
    | some tree => tree.cost ≤ cost
    | none => false
  done ||
    let mine : Standing :=
      { cost, inError, dynamic := (s.top v).dynamic, progress := s.progressSinceError v }
    (List.range s.versions.size).any fun i =>
      i != v && s.isActive i && s.place i ≥ s.place v &&
        match mine.compare (standing s i) with
        | .takeRight => true
        | .preferRight => s.canMerge i v
        | _ => false

/-! ### Acceptance -/

/-- Splices the children of the last tree that is no extra into the trees around it. -/
def spliceRoot (t : Tables) (source : Source) (trees : Array Subtree) : Option Subtree :=
  match (trees.toList.reverse.findIdx? fun (s : Subtree) => !s.extra) with
  | none => none
  | some back =>
    let i := trees.size - 1 - back
    match trees[i]? with
    | none => none
    | some tree =>
      let all := trees.extract 0 i ++ tree.children ++ trees.extract (i + 1) trees.size
      some (Subtree.node t source tree.symbol all tree.production tree.padding)

/-- Ends a parse at the end of the text. -/
def accept (m : Machine) (v : Nat) (lookahead : Subtree) : Machine :=
  let m := m.push v (some lookahead) Automaton.initial
  let t := m.tables
  let (slices, stack) := m.stack.popAll v
  let m := { m with stack }
  let m := slices.foldl
    (fun (m : Machine) sl =>
      match spliceRoot t m.source sl.trees with
      | none => m
      | some root =>
        let finished := match m.finished with
          | none => some root
          | some old => if old.isWorse root then some root else some old
        { m with finished, accepted := m.accepted + 1 })
    m
  m.mapStack fun _ s =>
    let s := match slices with
      | sl :: _ => s.remove sl.version
      | [] => s
    s.halt v

/-! ### Recovery -/

/-- The reductions possible in a state on some token of a list, each symbol and length once, and
whether some token can be shifted. -/
def possibleReductions (a : Automaton) (state : Nat) (tokens : List Nat) : List Nat × Bool :=
  let t := a.tables
  let shape (p : Nat) : Nat × Nat :=
    match t.productions[p]? with
    | some p => (p.lhs, p.steps.size)
    | none => (0, 0)
  let (found, shifts) := tokens.foldl
    (fun (acc : List Nat × Bool) token =>
      (a.actions state token).foldl
        (fun (acc : List Nat × Bool) action =>
          match action with
          | .shift false | .recover => (acc.1, true)
          | .reduce p =>
            if (shape p).2 > 0 && !(acc.1.any fun q => shape q == shape p) then (acc.1 ++ [p], acc.2)
            else acc
          | _ => acc)
        acc)
    ([], false)
  (found, shifts)

/-- Does every reduction that is possible in a version on a token, or on any token when none is
given, and on the versions that result. The result says whether the token can then be shifted. -/
def reduceAll (start : Nat) (token : Option Nat) (initialCount : Nat) :
    Nat → Nat → Nat → Bool → Machine → Bool × Machine
  | 0, _, _, canShift, m => (canShift, m)
  | fuel + 1, round, v, canShift, m =>
    let count := m.stack.versions.size
    if v ≥ count then (canShift, m)
    else
      let t := m.tables
      match mergeDown t m.stack ((List.range v).filter (· ≥ initialCount)) v with
      | some stack =>
        reduceAll start token initialCount fuel (round + 1) v canShift { m with stack }
      | none =>
        let state := m.stack.state v
        -- only tokens that are acceptable in the state have actions there
        let tokens := match token with
          | some k => [k]
          | none =>
            let acceptable := (m.automaton.state state).acceptable
            (List.range t.tokenCount).filter fun k => k != 0 && acceptable.testBit k
        let (found, shifts) := possibleReductions m.automaton state tokens
        let (last, m) := found.foldl
          (fun (acc : Option Nat × Machine) p => acc.2.reduce v p) (none, m)
        let canShift := canShift || shifts
        match shifts, last with
        | false, some r =>
          if round < maxVersions then
            reduceAll start token initialCount fuel (round + 1) v canShift
              (m.mapStack fun _ s => s.renumber r v)
          else
            let m := if token.isSome then m.mapStack fun _ s => s.remove v else m
            reduceAll start token initialCount fuel (round + 1) (if v == start then count else v + 1)
              canShift m
        | false, none =>
          let m := if token.isSome then m.mapStack fun _ s => s.remove v else m
          reduceAll start token initialCount fuel (round + 1) (if v == start then count else v + 1)
            canShift m
        | true, _ =>
          reduceAll start token initialCount fuel (round + 1) (if v == start then count else v + 1)
            canShift m

/-- All reductions that are possible in a version. -/
def allReductions (m : Machine) (v : Nat) (token : Option Nat) : Bool × Machine :=
  reduceAll v token m.stack.versions.size 10000 0 v false m

/-- Goes back to a state further down the stack, and wraps what lies above it in an error node. -/
def resumeAt (m : Machine) (v depth goal : Nat) : Bool × Machine :=
  let t := m.tables
  let (slices, stack) := m.stack.popCount v depth
  let m := { m with stack }
  let (m, previous) := slices.foldl
    (fun (acc : Machine × Option Nat) sl =>
      let (m, previous) := acc
      let w := sl.version
      if previous == some w then acc
      else if m.stack.state w != goal then (m.mapStack fun _ s => s.halt w, previous)
      else
        let (error, stack) := m.stack.popError t w
        let m := { m with stack }
        let trees := match error with
          | some e => e.children ++ sl.trees
          | none => sl.trees
        let (trees, extras) := Subtree.splitTrailingExtras trees
        let m :=
          if trees.isEmpty then m
          else
            let node := Subtree.node t m.source (Subtree.errorSymbol t) trees none (m.stack.place w)
            m.push w (some { node with extra := true }) goal
        (extras.foldl (fun (m : Machine) e => m.push w (some e) goal) m, some w))
    (m, none)
  (previous.isSome, m)

/-- Looks among the states below for one in which the lookahead makes sense. -/
def resumeBelow (m : Machine) (v : Nat) (lookahead : Subtree) (previousCount cost progress : Nat) :
    List Below → Bool × Machine
  | [] => (false, m)
  | b :: rest =>
    let place := m.stack.place v
    if b.state == Automaton.lost || b.place == place then
      resumeBelow m v lookahead previousCount cost progress rest
    else
      let depth := if progress > 0 then b.depth + 1 else b.depth
      let redundant := (List.range previousCount).any fun j =>
        m.stack.state j == b.state && m.stack.place j == place
      if redundant then resumeBelow m v lookahead previousCount cost progress rest
      else
        let source := m.source
        let newCost := cost + b.depth * Subtree.costs.skippedTree +
          (source.offset place - source.offset b.place) * Subtree.costs.skippedByte +
          (source.row place - source.row b.place) * Subtree.costs.skippedLine
        if m.betterExists v false newCost then (false, m)
        else if m.automaton.accepts b.state lookahead.symbol then
          let (done, m) := m.resumeAt v depth b.state
          if done then (true, m)
          else resumeBelow m v lookahead previousCount cost progress rest
        else resumeBelow m v lookahead previousCount cost progress rest

/-- Removes the versions from a number on that do not go on. -/
def dropIdle (s : Stack) (from' : Nat) : Stack :=
  ((List.range s.versions.size).reverse.filter (· ≥ from')).foldl
    (fun (s : Stack) i => if s.isActive i then s else s.remove i) s

/-- Skips the lookahead: it joins the text already skipped at the top of the version. -/
def skip (m : Machine) (v : Nat) (lookahead : Subtree) (progress : Nat) : Machine :=
  let t := m.tables
  let extra := t.extras.testBit lookahead.symbol
  let lookahead := if extra then { lookahead with extra := true } else lookahead
  let skipped := Subtree.node t m.source (Subtree.skippedSymbol t) #[lookahead] none lookahead.padding
  let (skipped, m) :=
    if progress > 0 then
      let (slices, stack) := m.stack.popCount v 1
      match slices with
      | [] => (skipped, { m with stack })
      | sl :: _ =>
        let stack := { stack with versions := stack.versions.extract 0 (sl.version + 1) }
        let stack := stack.renumber sl.version v
        let m := { m with stack }
        (Subtree.node t m.source (Subtree.skippedSymbol t) (sl.trees.push skipped) none
          (m.stack.place v), m)
    else (skipped, m)
  m.push v (some skipped) Automaton.lost

/-- **Recovers with a token**: goes back to a state in which the token makes sense, and also goes
on by skipping it. -/
def recover (m : Machine) (v : Nat) (lookahead : Subtree) : Machine :=
  let t := m.tables
  let previousCount := m.stack.versions.size
  let below := (m.stack.version v).below
  let progress := m.stack.progressSinceError v
  let cost := m.stack.cost v
  let (resumed, m) :=
    if lookahead.isError t then (false, m)
    else m.resumeBelow v lookahead previousCount cost progress below.toList
  let m := m.mapStack fun _ s => dropIdle s previousCount
  if resumed && m.stack.versions.size > maxVersions then m.mapStack fun _ s => s.halt v
  else if resumed && lookahead.delimiter.isSome then m.mapStack fun _ s => s.halt v
  else if lookahead.symbol == 0 then
    let root := Subtree.node t m.source (Subtree.errorSymbol t) #[] none (m.stack.place v)
    (m.push v (some root) Automaton.initial).accept v lookahead
  else
    let source := m.source
    let newCost := cost + Subtree.costs.skippedTree +
      (source.offset lookahead.stop - source.offset lookahead.padding) * Subtree.costs.skippedByte +
      (source.row lookahead.stop - source.row lookahead.padding) * Subtree.costs.skippedLine
    if m.betterExists v false newCost then m.mapStack fun _ s => s.halt v
    else m.skip v lookahead progress

/-- Tries to go on in a version by inventing one of the tokens. -/
def inventToken (v : Nat) (lookahead : Subtree) : List Nat → Machine → Bool × Machine
  | [], m => (false, m)
  | token :: rest, m =>
    let state := m.stack.state v
    let after := m.automaton.afterToken state token
    if after == 0 || after == state || !m.automaton.reducesOn after lookahead.symbol then
      inventToken v lookahead rest m
    else
      let (w, stack) := m.stack.copy v
      let m := { m with stack }
      let m := m.push w (some (Subtree.missingLeaf token (m.stack.place v))) after
      -- before the end of the text every reduction is tried
      let token := if lookahead.symbol == 0 then none else some lookahead.symbol
      let (ok, m) := m.allReductions w token
      if ok then (true, m) else inventToken v lookahead rest m

/-- Marks versions as lost, after trying to invent a token in each until that succeeds once. -/
def loseVersions (first previousCount count : Nat) (lookahead : Subtree) :
    Nat → Nat → Bool → Machine → Machine
  | 0, _, _, m => m
  | fuel + 1, v, invented, m =>
    if v ≥ count then m
    else
      let (invented, m) :=
        if invented then (true, m)
        else
          let shiftable := (m.automaton.state (m.stack.state v)).shiftable
          let tokens := (List.range m.tables.tokenCount).filter fun k => k != 0 && shiftable.testBit k
          inventToken v lookahead tokens m
      let m := m.push v none Automaton.lost
      loseVersions first previousCount count lookahead fuel
        (if v == first then previousCount else v + 1) invented m

/-- **Begins recovery** of a version that cannot take a token. -/
def handleError (m : Machine) (v : Nat) (lookahead : Subtree) : Machine :=
  let previousCount := m.stack.versions.size
  let (_, m) := m.allReductions v none
  let count := m.stack.versions.size
  let m := loseVersions v previousCount count lookahead 1000 v false m
  let m := (List.range (count - previousCount)).foldl
    (fun (m : Machine) _ =>
      match m.stack.merge? m.tables v previousCount with
      | some stack => { m with stack }
      | none => m)
    m
  let m := m.mapStack fun _ s => s.recordBelow v maxDepth
  m.recover v lookahead

/-! ### Acting -/

/-- Takes a token into a version. -/
def shift (m : Machine) (v state : Nat) (lookahead : Subtree) (extra : Bool) : Machine :=
  let m := m.push v (some { lookahead with extra }) state
  match lookahead.delimiter with
  | none => m
  | some d => m.mapStack fun _ s =>
      { s with versions := s.versions.modify v fun h => { h with delimiter := d } }

/-- The outcome of a list of actions. -/
inductive Outcome where
  /-- The version has taken the token, ended or begun to recover. -/
  | settled
  /-- Reductions were made; the last one begins with this version. -/
  | reduced (version : Nat)
  | nothing

/-- Does the actions of a version on a token. -/
def act (v : Nat) (lookahead : Subtree) (state : Nat) :
    List Action → Option Nat → Machine → Outcome × Machine
  | [], none, m => (.nothing, m)
  | [], some r, m => (.reduced r, m)
  | .shift true :: rest, last, m => act v lookahead state rest last m
  | .shift false :: _, _, m =>
    (.settled, m.shift v (m.automaton.goto state lookahead.symbol) lookahead false)
  | .shiftExtra :: _, _, m => (.settled, m.shift v state lookahead true)
  | .accept :: _, _, m => (.settled, m.accept v lookahead)
  | .recover :: _, _, m => (.settled, m.recover v lookahead)
  | .reduce p :: rest, last, m =>
    let (r, m) := m.reduce v p
    act v lookahead state rest (r.or last) m

/-- Lets a version act on a token until it has taken it. -/
def actOn (v : Nat) : Nat → Subtree → Machine → Machine
  | 0, _, m => m.mapStack fun _ s => s.halt v
  | fuel + 1, lookahead, m =>
    let t := m.tables
    let state := m.stack.state v
    match act v lookahead state (m.automaton.actions state lookahead.symbol) none m with
    | (.settled, m) => m
    | (.reduced r, m) => actOn v fuel lookahead (m.mapStack fun _ s => s.renumber r v)
    | (.nothing, m) =>
      if lookahead.reserved && lookahead.symbol != t.word && m.automaton.accepts state t.word then
        actOn v fuel { lookahead with symbol := t.word } m
      else if state == Automaton.lost then m.recover v lookahead
      else m.mapStack fun _ s => s.pause v lookahead

/-- **Lets a version act until it has taken a token**, ended, or come to a stop. -/
def advance (m : Machine) (v : Nat) : Machine :=
  let lookahead := m.readToken v
  actOn v (16 * (m.stack.nodes.size + 64)) lookahead m

/-! ### Condensing -/

/-- Compares the version `i`, of which `mine` is the standing, with those before it, from `j` on.
The result is the number of the version to look at next. -/
def compareBefore (mine : Standing) : Nat → Nat → Nat → Machine → Nat × Machine
  | 0, i, _, m => (i + 1, m)
  | fuel + 1, i, j, m =>
    if j ≥ i then (i + 1, m)
    else
      let t := m.tables
      match (standing m.stack j).compare mine with
      | .takeLeft => (i, m.mapStack fun _ s => s.remove i)
      | .preferLeft | .none =>
        match m.stack.merge? t j i with
        | some stack => (i, { m with stack })
        | none => compareBefore mine fuel i (j + 1) m
      | .preferRight =>
        match m.stack.merge? t j i with
        | some stack => (i, { m with stack })
        | none => compareBefore mine fuel i (j + 1) (m.mapStack fun _ s => s.swap i j)
      | .takeRight => compareBefore mine fuel (i - 1) j (m.mapStack fun _ s => s.remove j)

/-- Compares all versions, and drops those that are halted or clearly worse than another one. The
result is the least cost of a version that is not in error. -/
def compareAll : Nat → Nat → Option Nat → Machine → Option Nat × Machine
  | 0, _, least, m => (least, m)
  | fuel + 1, i, least, m =>
    if i ≥ m.stack.versions.size then (least, m)
    else if m.stack.isHalted i then
      compareAll fuel i least (m.mapStack fun _ s => s.remove i)
    else
      let mine := standing m.stack i
      let least :=
        if mine.inError then least
        else match least with
          | none => some mine.cost
          | some c => some (min c mine.cost)
      let (next, m) := compareBefore mine 100 i 0 m
      compareAll fuel next least m

/-- Lets the best paused version recover when no version before it goes on, and removes the other
paused ones. -/
def resumePaused : Nat → Nat → Nat → Bool → Option Nat → Machine → Option Nat × Machine
  | 0, _, _, _, least, m => (least, m)
  | fuel + 1, i, n, going, least, m =>
    if i ≥ n then (least, m)
    else match (m.stack.version i).status with
      | .paused lookahead =>
        if !going && m.accepted < maxVersions then
          let least := some (m.stack.cost i)
          let m := m.mapStack fun _ s =>
            { s with versions := s.versions.modify i fun h => { h with status := .active } }
          resumePaused fuel (i + 1) n true least (m.handleError i lookahead)
        else resumePaused fuel i (n - 1) going least (m.mapStack fun _ s => s.remove i)
      | _ => resumePaused fuel (i + 1) n true least m

/-- **Compares the versions and drops the worse ones.** The result is the least cost of a version
that goes on. -/
def condense (m : Machine) : Option Nat × Machine :=
  let (least, m) := compareAll 1000 0 none m
  let m := m.mapStack fun _ s => { s with versions := s.versions.extract 0 maxVersions }
  resumePaused 100 0 m.stack.versions.size false least m

/-! ### The whole parse -/

/-- Advances a version until it has passed the furthest place reached so far. -/
def advanceVersion (v : Nat) : Nat → Nat → Machine → Nat × Machine
  | 0, last, m => (last, m)
  | fuel + 1, last, m =>
    if !m.stack.isActive v || v ≥ m.stack.versions.size then (last, m)
    else
      let m := m.advance v
      let place := m.stack.place v
      if place > last || (v > 0 && place == last) then (place, m)
      else advanceVersion v fuel last m

/-- Advances the versions one after the other. -/
def advanceAll : Nat → Nat → Nat → Machine → Nat × Machine
  | 0, _, last, m => (last, m)
  | fuel + 1, v, last, m =>
    if v ≥ m.stack.versions.size then (last, m)
    else
      let (last, m) := advanceVersion v (4 * m.source.size + 100) last m
      advanceAll fuel (v + 1) last m

/-- Goes on until no version is left, or a finished parse is better than all of them. -/
def loop : Nat → Nat → Machine → Machine
  | 0, _, m => m
  | fuel + 1, last, m =>
    let (last, m) := advanceAll 100 0 last m
    let (least, m) := m.condense
    let done := match m.finished, least with
      | some tree, some c => tree.cost < c
      | some _, none => true
      | none, _ => false
    if done || m.stack.versions.isEmpty then m else loop fuel last m

/-- **The best parse of a text.** -/
def run (automaton : Automaton) (lex : LexTables) (source : Source) : Option Subtree :=
  let m : Machine := { lex, source, automaton, stack := Stack.start Automaton.initial }
  (loop (8 * source.size + 100) 0 m).finished

end Machine

end CodeMetrics.Parsing
