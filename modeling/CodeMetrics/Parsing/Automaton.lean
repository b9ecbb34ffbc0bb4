import CodeMetrics.Parsing.Families

/-!
# The parsing automaton

The states of the automaton of a grammar are its families of kernels: a state knows the productions
under way, how far each has come, and the tokens that may follow them in some kernel of the family.
From these follow the tokens that are acceptable in a state and what may be done on each.

State `0` is the state of a parser that has lost its place, state `1` the start.

* `Automaton.ofTables` – the automaton of a grammar;
* `Automaton.goto` – the state after a symbol;
* `Automaton.actions` – what may be done in a state on a token.
-/

namespace CodeMetrics.Parsing

open Grammar

/-- A state of the automaton. -/
structure State where
  kernel : Kernel
  /-- The tokens that can be shifted. -/
  shiftable : Nat
  /-- The tokens acceptable in the state. -/
  acceptable : Nat
  /-- The rule the state reduces to, when it does nothing but replace one node by another that
  does not appear in the tree. -/
  relay : Option Nat
  /-- The symbols that may come next, in order. -/
  symbols : Array Nat
  /-- The states they lead to. -/
  targets : Array Nat
  deriving Inhabited

namespace State

/-- The rule that all items of a kernel have just completed from a single node without a trace in
the tree. -/
def relayOf (t : Tables) (kernel : Kernel) : Option Nat :=
  let target (i : Item) : Option Nat :=
    match t.productions[i.production]? with
    | some p =>
      if i.done == 1 && p.steps.size == 1 && p.plain && p.dynamic == 0 &&
          (t.symbols.getD p.lhs default).transparent then some p.lhs
      else none
    | none => none
  match kernel[0]? with
  | none => none
  | some i =>
    match target i with
    | none => none
    | some symbol => if kernel.all fun j => target j == some symbol then some symbol else none

/-- The state with a given kernel, and the states that symbols lead to. -/
def ofKernel (t : Tables) (kernel : Kernel) (symbols targets : Array Nat) : State :=
  let shiftable := kernel.shiftable t
  { kernel
    shiftable
    acceptable := shiftable ||| kernel.closing t ||| t.extras
    relay := relayOf t kernel
    symbols
    targets }

/-- The place of a symbol between two places of an ordered list, if it is there. -/
def search (symbols : Array Nat) (symbol : Nat) : Nat → Nat → Nat → Option Nat
  | 0, _, _ => none
  | fuel + 1, low, high =>
    if low ≥ high then none
    else
      let middle := (low + high) / 2
      let found := symbols.getD middle 0
      if found == symbol then some middle
      else if found < symbol then search symbols symbol fuel (middle + 1) high
      else search symbols symbol fuel low middle

/-- The state a symbol leads to. -/
def next? (s : State) (symbol : Nat) : Option Nat :=
  (search s.symbols symbol s.symbols.size 0 s.symbols.size).bind fun k => s.targets[k]?

/-- What may be done in a state on a token. -/
def actions (t : Tables) (s : State) (token : Nat) : List Action :=
  if t.extras.testBit token then [.shiftExtra]
  else if s.acceptable.testBit token then s.kernel.actions t (s.shiftable.testBit token) token
  else []

end State

/-- The automaton of a grammar. -/
structure Automaton where
  tables : Tables
  states : Array State

namespace Automaton

/-- The state of a parser that has lost its place. -/
def lost : Nat := 0

/-- The start. -/
def initial : Nat := 1

/-- **The automaton of a grammar.** -/
def ofTables (t : Tables) : Automaton :=
  let families := Families.ofTables t
  let state (f : Family) : State :=
    let symbols := (families.graph.ways.getD f.core #[]).map (·.symbol)
    let kernel := (families.graph.cores.getD f.core default).withFollowers f.followers
    State.ofKernel t kernel symbols (f.next.map (· + 1))
  let searching : State :=
    { kernel := #[], shiftable := 0, acceptable := t.resuming ||| Tables.bit 0, relay := none,
      symbols := #[], targets := #[] }
  { tables := t, states := #[searching] ++ families.all.map state }

/-- The state with a number. -/
def state (a : Automaton) (s : Nat) : State := a.states.getD s default

/-- Follows relays from the successor `r` of the state `s`. -/
def followRelays (a : Automaton) (s : State) : Nat → Nat → Nat
  | 0, r => r
  | fuel + 1, r =>
    match (a.state r).relay with
    | none => r
    | some symbol =>
      match s.next? symbol with
      | some r' => followRelays a s fuel r'
      | none => r

/-- The state after a symbol; `0` if the symbol cannot come. -/
def goto (a : Automaton) (s symbol : Nat) : Nat :=
  match (a.state s).next? symbol with
  | some r => a.followRelays (a.state s) 16 r
  | none => 0

/-- **What may be done in a state on a token**: reductions first, then the shift. -/
def actions (a : Automaton) (s token : Nat) : List Action :=
  if s = lost then
    if a.tables.extras.testBit token then [.shiftExtra]
    else if token = 0 || a.tables.resuming.testBit token then [.recover] else []
  else (a.state s).actions a.tables token

/-- Whether a token is acceptable in a state. -/
def accepts (a : Automaton) (s token : Nat) : Bool := !(a.actions s token).isEmpty

/-- Whether the first action on a token is a reduction. -/
def reducesOn (a : Automaton) (s token : Nat) : Bool :=
  match a.actions s token with
  | .reduce _ :: _ => true
  | _ => false

/-- The state after shifting a token; the same state for one that may stand anywhere, and `0` when
it is not shifted. -/
def afterToken (a : Automaton) (s token : Nat) : Nat :=
  match (a.actions s token).getLast? with
  | some (.shift _) => a.goto s token
  | some .shiftExtra => s
  | _ => 0

end Automaton

end CodeMetrics.Parsing
