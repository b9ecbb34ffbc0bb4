import CodeMetrics.Grammar.Tables

/-!
# Productions under way

An *item* is a production under way: how many of its steps are done, and which tokens may follow it.
A *kernel* is a list of items that are under way at one place of a text.

`Kernel.actions` lists what may be done there on a token. Precedences and associativities settle the
conflicts they speak of; what they leave open stays as several actions.
-/

namespace CodeMetrics.Parsing

open Grammar

/-- A production under way: its number, the steps done, and the tokens that may follow it. -/
structure Item where
  production : Nat
  done : Nat
  followers : Nat
  deriving BEq, Hashable, Inhabited

namespace Item

/-- The next step of an item. -/
def next? (t : Tables) (i : Item) : Option Step :=
  match t.productions[i.production]? with
  | some p => p.steps[i.done]?
  | none => none

/-- The step an item has done last. -/
def previous? (t : Tables) (i : Item) : Option Step :=
  match i.done, t.productions[i.production]? with
  | n + 1, some p => p.steps[n]?
  | _, _ => none

/-- The left side of an item's production. -/
def lhs (t : Tables) (i : Item) : Nat :=
  match t.productions[i.production]? with
  | some p => p.lhs
  | none => 0

/-- Whether an item is completed and a token may follow it. -/
def closesOn (t : Tables) (token : Nat) (i : Item) : Bool :=
  (i.next? t).isNone && i.followers.testBit token

/-- Whether an item under way may go on with a token. -/
def continuesWith (t : Tables) (token : Nat) (i : Item) : Bool :=
  match i.next? t with
  | some step => i.done > 0 && (t.first.getD step.symbol 0).testBit token
  | none => false

end Item

/-- What to do on a token. -/
inductive Action where
  /-- Take the token; `repeated` marks the choice of not yet closing a repetition. -/
  | shift (repeated : Bool)
  /-- Take a token that may stand anywhere. -/
  | shiftExtra
  /-- Replace the last nodes by one for the production. -/
  | reduce (production : Nat)
  | accept
  /-- Look for a place to resume. -/
  | recover
  deriving Inhabited, BEq

namespace Action

/-- The action that closes a production: the first production is that of the whole text. -/
def close (production : Nat) : Action := if production == 0 then .accept else .reduce production

end Action

/-! ### Precedence -/

/-- The preference that an ordering gives between two lists of symbols: the one mentioned first is
preferred. -/
def orderingCompare (ordering : List Nat) (left right : List Nat) : Option Ordering :=
  let rec scan : List Nat → Bool → Bool → Option Ordering
    | [], _, _ => none
    | s :: rest, sawLeft, sawRight =>
      let matchesLeft := left.contains s
      let matchesRight := right.contains s
      if matchesLeft && sawRight then some .lt
      else if matchesRight && (sawLeft || matchesLeft) then some .gt
      else scan rest (sawLeft || matchesLeft) (sawRight || matchesRight)
  scan ordering false false

/-- Compares two precedences, together with the symbols they come from. -/
def comparePrecedence (t : Tables) (left : Option Int) (leftSymbols : List Nat)
    (right : Option Int) (rightSymbols : List Nat) : Ordering :=
  let l := left.getD 0
  let r := right.getD 0
  if l ≠ 0 || r ≠ 0 then compare l r
  else (t.orderings.findSome? fun o => orderingCompare o leftSymbols rightSymbols).getD .eq

/-- The productions closed on a token so far, all of one precedence. -/
structure Reductions where
  productions : Array Nat := #[]
  level : Option Int := none
  symbols : List Nat := []
  left : Bool := false
  right : Bool := false
  neither : Bool := false

/-- Takes in a completed production: one of lower precedence is dropped, one of higher precedence
drops the others. -/
def Reductions.add (t : Tables) (r : Reductions) (production : Nat) : Reductions :=
  let p := t.productions.getD production default
  let last := p.steps.back?
  let level := last.bind (·.level)
  let assoc := last.bind (·.assoc)
  let insert (r : Reductions) : Reductions :=
    { productions := r.productions.push production
      level
      symbols := if r.symbols.contains p.lhs then r.symbols else p.lhs :: r.symbols
      left := r.left || assoc == some .left
      right := r.right || assoc == some .right
      neither := r.neither || assoc == none }
  if r.productions.isEmpty then insert r
  else match comparePrecedence t level [p.lhs] r.level r.symbols with
    | .gt => insert {}
    | .eq => insert r
    | .lt => r

/-! ### Kernels -/

/-- The items under way at one place. -/
abbrev Kernel := Array Item

namespace Kernel

/-- The tokens that can be shifted. -/
def shiftable (t : Tables) (k : Kernel) : Nat :=
  k.foldl
    (fun acc i => match i.next? t with | some s => acc ||| t.first.getD s.symbol 0 | none => acc) 0

/-- The tokens on which some item is closed. -/
def closing (t : Tables) (k : Kernel) : Nat :=
  k.foldl (fun acc i => match i.next? t with | some _ => acc | none => acc ||| i.followers) 0

/-- The productions closed on a token. -/
def reductions (t : Tables) (k : Kernel) (token : Nat) : Reductions :=
  k.foldl (fun r i => if i.closesOn t token then r.add t i.production else r) {}

/-- Whether all symbols are one and the same repetition. -/
def isOneRepetition (t : Tables) (symbols : Array Nat) : Bool :=
  match symbols[0]? with
  | some p => (t.symbols.getD p default).repetition && symbols.all fun q => q == p
  | none => false

/-- **What may be done on a token**, where `canShift` says whether it can be shifted: reductions
first, then the shift. -/
def actions (t : Tables) (k : Kernel) (canShift : Bool) (token : Nat) : List Action :=
  let r := k.reductions t token
  let reduce : List Action := r.productions.toList.map Action.close
  if !canShift then reduce
  else if reduce.isEmpty then [.shift false]
  else
    let shifting := k.filter (Item.continuesWith t token)
    let completed := k.filter fun i => i.closesOn t token && i.production != 0
    if isOneRepetition t ((shifting ++ completed).map (Item.lhs t)) then reduce ++ [.shift true]
    else
      let verdicts := shifting.map fun i =>
        comparePrecedence t ((i.previous? t).bind (·.level)) [i.lhs t] r.level r.symbols
      let more := verdicts.contains .gt
      let less := verdicts.contains .lt
      if more && !less then [.shift false]
      else if less && !more then reduce
      else if !more && !less then
        match r.left, r.neither, r.right with
        | true, false, false => reduce
        | false, false, true => [.shift false]
        | _, _, _ => reduce ++ [.shift false]
      else reduce ++ [.shift false]

end Kernel

end CodeMetrics.Parsing
