import CodeMetrics.Grammar.Production

/-!
# Grammar tables

A grammar in the form the parser consults. Symbols are numbers: `0` is the end of the text, then
come the tokens, then the rules. The tables hold what is known of each symbol and each production
and, computed once:

* `Tables.first` – the tokens that may begin a symbol, as a bit set;
* `Tables.openings` – for each rule, the rules that may stand at its beginning, each with the
  tokens that may follow it there;
* `Tables.starting` – the productions that begin with a symbol.

No production but that of the start is empty, so a symbol can only follow what stands before it.
-/

namespace CodeMetrics.Grammar

/-- What is known of a symbol. -/
structure SymbolInfo where
  /-- The name under which it is shown. -/
  name : String
  named : Bool
  visible : Bool
  /-- Whether the symbol is a repetition. -/
  repetition : Bool := false
  /-- Whether a node of the symbol alone may be left out of the tree. -/
  transparent : Bool := false
  deriving Inhabited

/-- A step of a production. -/
structure Step where
  symbol : Nat
  shown : Option Shown
  field : Option String
  level : Option Int
  assoc : Option Assoc
  deriving DecidableEq, Inhabited

/-- A production. -/
structure Production where
  lhs : Nat
  steps : Array Step
  dynamic : Int
  /-- Whether no step has a field or another name. -/
  plain : Bool
  deriving DecidableEq, Inhabited

/-- A rule at the beginning of another one: the tokens that may follow it there, and whether also
what follows the outer rule may follow it. -/
structure Opening where
  symbol : Nat
  followers : Nat
  propagates : Bool
  deriving Inhabited

/-- The tables of a grammar. -/
structure Tables where
  symbols : Array SymbolInfo
  /-- The number of tokens, the end of the text included. -/
  tokenCount : Nat
  /-- The tokens by number; the first entry stands for the end of the text. -/
  tokens : Array Token
  /-- The order of the tokens in the grammar. -/
  tokenOrder : Array Nat
  productions : Array Production
  /-- The productions that begin with a symbol. -/
  starting : Array (Array Nat)
  /-- The tokens that may begin a symbol. -/
  first : Array Nat
  /-- The rules that may stand at the beginning of a rule, by number after the tokens. -/
  openings : Array (Array Opening)
  start : Nat
  /-- The empty production of the start. -/
  emptyStart : Nat
  /-- The tokens that may stand anywhere. -/
  extras : Nat
  /-- The token reserved words are read as. -/
  word : Nat
  /-- The reserved words. -/
  reserved : Std.HashMap String Nat
  /-- The tokens that are reserved words. -/
  reservedSet : Nat
  /-- The tokens looked for while the parser searches for a place to resume. -/
  resuming : Nat
  /-- The tokens scanned by rules of their own. -/
  scanned : Nat
  /-- Lists of symbols in falling order of preference. -/
  orderings : List (List Nat)
  /-- For each token those in place of which it would be read. -/
  rivals : Array Nat
  /-- For each production, by the number of steps done, the first of its twins. -/
  leaders : Array (Array Nat)

namespace Tables

/-- The production that stands for one and its twins after some steps. -/
def leader (t : Tables) (production done : Nat) : Nat :=
  match t.leaders[production]? with
  | some own => own.getD done production
  | none => production

/-- The bit set of one token. -/
def bit (t : Nat) : Nat := 1 <<< t

/-! ### Collecting tokens -/

/-- The tokens of a rule in order of occurrence. -/
def tokensOf : Rule → List Token
  | .token t => [t]
  | .seq a b | .alt a b => tokensOf a ++ tokensOf b
  | .plus r | .field _ r | .shown _ _ r | .prec _ _ r | .dynamic _ r => tokensOf r
  | .empty | .ref _ => []

/-- The tokens of a grammar in order of occurrence, each once. -/
def allTokens (g : Grammar) : Array Token :=
  let occurrences := g.definitions.flatMap fun (_, d) =>
    match d with
    | .rule r => tokensOf r
    | .token t => [t]
  (occurrences.foldl
    (fun (acc : Array Token × Std.HashMap String Unit) t =>
      if acc.2.contains t.key then acc else (acc.1.push t, acc.2.insert t.key ()))
    (#[], {})).1

/-! ### Default names -/

/-- How a symbol is used: whether it occurs under its own name, and how often under others. -/
structure Usage where
  ownName : Bool := false
  others : List (Shown × Nat) := []

/-- Counts one more use under a name. -/
def Usage.add (u : Usage) : Option Shown → Usage
  | none => { u with ownName := true }
  | some s =>
    if u.others.any fun e => e.1 == s then
      { u with others := u.others.map fun e => if e.1 == s then (e.1, e.2 + 1) else e }
    else { u with others := u.others ++ [(s, 1)] }

/-- The name of a symbol that never occurs under its own name: the one it has most often. -/
def Usage.default? (u : Usage) : Option Shown :=
  if u.ownName then none
  else (u.others.foldl
    (fun (best : Option (Shown × Nat)) e =>
      match best with
      | none => some e
      | some b => if b.2 < e.2 then some e else some b)
    none).map (·.1)

/-! ### Beginnings -/

/-- Adds to the beginnings of rules those of their productions' first symbols, `fuel` times. -/
def firstSets (productions : Array Production) : Nat → Array Nat → Array Nat
  | 0, sets => sets
  | fuel + 1, sets =>
    let next := productions.foldl
      (fun (sets : Array Nat) p =>
        match p.steps[0]? with
        | none => sets
        | some s => sets.modify p.lhs fun old => old ||| sets.getD s.symbol 0)
      sets
    if next == sets then sets else firstSets productions fuel next

/-- The rules at the beginning of a rule as they are being found: for each rule the followers,
whether they propagate, and the rules still to be looked at. -/
structure OpeningSearch where
  followers : Array Nat
  propagates : Array Bool
  pending : List Nat
  found : Array Nat

/-- Records a rule at the beginning. -/
def OpeningSearch.add (s : OpeningSearch) (rule followers : Nat) (propagates : Bool) :
    OpeningSearch :=
  let oldFollowers := s.followers.getD rule 0
  let oldPropagates := s.propagates.getD rule false
  let newFollowers := oldFollowers ||| followers
  let newPropagates := oldPropagates || propagates
  let known := oldFollowers != 0 || oldPropagates
  if known && newFollowers == oldFollowers && newPropagates == oldPropagates then s
  else
    { followers := s.followers.set! rule newFollowers
      propagates := s.propagates.set! rule newPropagates
      pending := rule :: s.pending
      found := if known then s.found else s.found.push rule }

/-- Looks at the pending rules until none is left. -/
def OpeningSearch.run (leads : Array (Array (Nat × Nat))) : Nat → OpeningSearch → OpeningSearch
  | 0, s => s
  | fuel + 1, s =>
    match s.pending with
    | [] => s
    | rule :: pending =>
      let followers := s.followers.getD rule 0
      let propagates := s.propagates.getD rule false
      let s := (leads.getD rule #[]).foldl
        (fun (s : OpeningSearch) (lead : Nat × Nat) =>
          if lead.2 = 0 then s.add lead.1 followers propagates else s.add lead.1 lead.2 false)
        { s with pending }
      OpeningSearch.run leads fuel s

/-- The rules at the beginning of each rule. `leads` gives for each rule the rules its productions
begin with, each with the tokens that may come next in the production, if it has a next step. -/
def openingsOf (leads : Array (Array (Nat × Nat))) (tokenCount : Nat) : Array (Array Opening) :=
  let n := leads.size
  (Array.range n).map fun rule =>
    let search : OpeningSearch :=
      { followers := Array.replicate n 0
        propagates := (Array.replicate n false).set! rule true
        pending := [rule]
        found := #[rule] }
    let search := search.run leads (n * 64)
    search.found.map fun r =>
      ⟨r + tokenCount, search.followers.getD r 0, search.propagates.getD r false⟩

/-! ### Twins

After some steps two productions may differ only in symbols that lie behind. They need not be told
apart any more: *twins* are productions of one rule with the same outlook. Only a hidden rule that
fills fields of the node around it is remembered. -/

/-- The rules whose parts fill fields, in themselves or in hidden rules among their parts. -/
def fillers (hidden : Nat → Bool) (productions : Array Production) : Nat → Array Bool → Array Bool
  | 0, known => known
  | fuel + 1, known =>
    let next := productions.foldl
      (fun (known : Array Bool) p =>
        if p.steps.any fun s => s.field.isSome || (hidden s.symbol && known.getD s.symbol false) then
          known.set! p.lhs true
        else known)
      known
    if next == known then known else fillers hidden productions fuel next

/-- What is of interest of a production after some steps: how the steps done are shown, and their
symbols if one of them fills fields, the precedence of the last of them, and the steps that are
left. -/
structure Outlook where
  dynamic : Int
  past : List (Option Shown × Option String)
  filled : List Nat
  level : Option Int
  assoc : Option Assoc
  rest : List Step
  deriving DecidableEq

/-- The outlook of a production after some steps. -/
def Outlook.after (fills : Nat → Bool) (p : Production) (done : Nat) : Outlook :=
  let steps := p.steps.toList
  let past := steps.take done
  let last := past.getLast?
  { dynamic := p.dynamic
    past := past.map fun s => (s.shown, s.field)
    filled := if past.any fun s => fills s.symbol then past.map (·.symbol) else []
    level := last.bind (·.level)
    assoc := last.bind (·.assoc)
    rest := steps.drop done }

/-- The outlooks found so far, by rule and number of steps done, each with its first production. -/
abbrev Outlooks := Std.HashMap (Nat × Nat) (List (Outlook × Nat))

/-- The first production of a rule with the outlook of one after some steps. -/
def firstTwin (fills : Nat → Bool) (p : Production) (number done : Nat) (known : Outlooks) :
    Nat × Outlooks :=
  let outlook := Outlook.after fills p done
  match (known.getD (p.lhs, done) []).find? fun e => e.1 = outlook with
  | some (_, twin) => (twin, known)
  | none =>
    (number, known.alter (p.lhs, done) fun es? => some ((outlook, number) :: es?.getD []))

/-- The first twin of every production, by the number of steps done; `fills` says which symbols are
hidden rules that fill fields. -/
def leadersOf (fills : Nat → Bool) (productions : Array Production) : Array (Array Nat) :=
  (productions.foldl
    (fun (acc : Array (Array Nat) × Outlooks) p =>
      let (all, known) := acc
      let (own, known) := (List.range (p.steps.size + 1)).foldl
        (fun (acc : Array Nat × Outlooks) done =>
          let (twin, known) := firstTwin fills p all.size done acc.2
          (acc.1.push twin, known))
        (#[], known)
      (all.push own, known))
    (#[], {})).1

/-! ### The tables of a grammar -/

/-- The bit set of the tokens that satisfy a condition. -/
def tokenSet (tokens : Array Token) (p : Token → Bool) : Nat :=
  (Array.range tokens.size).foldl
    (fun acc i =>
      if i = 0 then acc
      else match tokens[i]? with
        | some t => if p t then acc ||| bit i else acc
        | none => acc)
    0

/-- **The tables of a grammar.** -/
def ofGrammar (g : Grammar) : Tables :=
  -- tokens: the end of the text, the word token, the others in order, the scanned ones
  let inOrder := allTokens g
  let isWordToken (t : Token) : Bool := t.key == g.word
  let listed := inOrder.filter isWordToken ++ inOrder.filter (fun t => !isWordToken t)
  let tokens := #[{ name := "end", visible := false : Token }] ++ listed ++ g.scanned.toArray
  let tokenCount := tokens.size
  let tokenIds : Std.HashMap String Nat := (Array.range tokenCount).foldl
    (fun m i => match tokens[i]? with | some t => if i = 0 then m else m.insert t.key i | none => m)
    {}
  let tokenOrder := Array.replicate tokenCount 0
  let tokenOrder := (Array.range inOrder.size).foldl
    (fun (acc : Array Nat) i => match inOrder[i]? with
      | some t => acc.set! (tokenIds.getD t.key 0) (i + 1)
      | none => acc)
    tokenOrder
  -- rules, repetitions last
  let (rules, expansion) := g.definitions.foldl
    (fun (acc : Array (String × Rule) × Expansion) (name, d) =>
      match d with
      | .rule r =>
        let (r, e) := Expansion.expand name r acc.2
        (acc.1.push (name, r), e)
      | .token _ => acc)
    (#[], {})
  let ruleCount := rules.size
  let rules := rules ++ expansion.made
  let ids : Std.HashMap String Nat := (Array.range rules.size).foldl
    (fun m i => match rules[i]? with | some (name, _) => m.insert name (i + tokenCount) | none => m)
    {}
  let tokenNames : Std.HashMap String Nat := g.definitions.foldl
    (fun m (name, d) => match d with
      | .rule _ => m
      | .token t => m.insert name (tokenIds.getD t.key 0))
    {}
  let symbolOf (s : DraftStep) : Nat :=
    if s.isToken then tokenIds.getD s.symbol 0
    else match ids[s.symbol]? with
      | some i => i
      | none => match tokenNames[s.symbol]? with
        | some i => i
        | none => tokenIds.getD s.symbol 0
  let symbolCount := tokenCount + rules.size
  let drafts := rules.map fun (_, r) => Draft.ofRule r
  -- names of symbols that never occur under their own
  let usages := drafts.foldl
    (fun (acc : Array Usage) ds => ds.foldl
      (fun acc d => d.steps.foldl
        (fun acc s =>
          if !s.isToken && g.inlined.contains s.symbol then acc
          else acc.modify (symbolOf s) fun u => u.add s.shown)
        acc)
      acc)
    (Array.replicate symbolCount ({} : Usage))
  let usages := g.extras.foldl
    (fun (acc : Array Usage) name => acc.modify (tokenIds.getD name 0) fun u => u.add none) usages
  let defaults := usages.map Usage.default?
  -- productions
  let inlineTable (name : String) : Option (List Draft) :=
    if g.inlined.contains name then
      match ids[name]? with
      | some i => drafts[i - tokenCount]?
      | none => none
    else none
  let number (lhs : Nat) (d : Draft) : Production :=
    let steps := d.steps.toArray.map fun s =>
      let symbol := symbolOf s
      let shown := if s.shown == defaults.getD symbol none then none else s.shown
      { symbol, shown, field := s.field, level := s.level, assoc := s.assoc : Step }
    { lhs, steps, dynamic := d.dynamic
      plain := steps.all fun s => s.shown.isNone && s.field.isNone }
  let augmented : Production :=
    { lhs := symbolCount
      steps := #[{ symbol := tokenCount, shown := none, field := none, level := none, assoc := none }]
      dynamic := 0
      plain := true }
  let productions := (Array.range rules.size).foldl
    (fun (acc : Array Production) i =>
      match rules[i]?, drafts[i]? with
      | some (name, _), some ds =>
        if g.inlined.contains name then acc
        else
          let inlined := (ds.flatMap (Draft.inline inlineTable 16)).map (number (i + tokenCount))
          acc ++ inlined.eraseDups.toArray
      | _, _ => acc)
    #[augmented]
  -- what is known of the symbols
  let otherwiseShown := productions.foldl
    (fun (acc : Array Bool) p => p.steps.foldl
      (fun acc s => if s.shown.isSome then acc.set! s.symbol true else acc) acc)
    (Array.replicate symbolCount false)
  let isHidden (i : Nat) : Bool :=
    match rules[i - tokenCount]? with
    | some (name, _) =>
      i - tokenCount ≥ ruleCount || g.supertypes.contains name || name.toList.head? == some '_'
    | none => false
  let symbols := (Array.range symbolCount).map fun i =>
    let other := defaults.getD i none
    if i < tokenCount then
      match tokens[i]? with
      | some t =>
        match other with
        | some s => { name := s.name, named := s.named, visible := true : SymbolInfo }
        | none => { name := t.name, named := t.named, visible := t.visible }
      | none => default
    else
      match rules[i - tokenCount]? with
      | some (name, _) =>
        let repetition := i - tokenCount ≥ ruleCount
        let supertype := g.supertypes.contains name
        let hidden := isHidden i
        match other with
        | some s => { name := s.name, named := s.named, visible := true, repetition }
        | none =>
          { name, named := !hidden, visible := !hidden, repetition
            transparent := hidden && !supertype && !(otherwiseShown.getD i false) }
      | none => default
  let starting := productions.foldl
    (fun (acc : Array (Array Nat) × Nat) p =>
      (match p.steps[0]? with
        | some s => if acc.2 = 0 then acc.1 else acc.1.modify s.symbol fun ps => ps.push acc.2
        | none => acc.1,
       acc.2 + 1))
    (Array.replicate symbolCount #[], 0)
  let first := (Array.range (symbolCount + 1)).map fun i => if i < tokenCount then bit i else 0
  let first := firstSets productions 200 first
  let leads := productions.foldl
    (fun (acc : Array (Array (Nat × Nat))) p =>
      match p.steps[0]? with
      | some s =>
        if s.symbol < tokenCount || p.lhs = symbolCount then acc
        else
          let next := match p.steps[1]? with
            | some t => first.getD t.symbol 0
            | none => 0
          acc.modify (p.lhs - tokenCount) fun ls => ls.push (s.symbol - tokenCount, next)
      | none => acc)
    (Array.replicate rules.size #[])
  { symbols
    tokenCount
    tokens
    tokenOrder
    productions
    starting := starting.1
    first
    openings := openingsOf leads tokenCount
    start := tokenCount
    emptyStart := (productions.findIdx? fun p => p.lhs == tokenCount && p.steps.isEmpty).getD 0
    extras := g.extras.foldl (fun acc name => acc ||| bit (tokenIds.getD name 0)) 0
    word := 1
    reserved := (Array.range tokenCount).foldl
      (fun m i => match tokens[i]? with
        | some t => t.words.foldl (fun m w => m.insert w i) m
        | none => m)
      {}
    reservedSet := tokenSet tokens fun t => !t.words.isEmpty
    resuming := tokenSet tokens fun t => !t.contextual
    scanned := tokenSet tokens fun t => t.scanned
    orderings := g.orderings.map fun names => names.map fun name => ids.getD name symbolCount
    rivals := (Array.range tokenCount).map fun i =>
      match tokens[i]? with
      | some t =>
        let names := (g.rivals.filter fun r => r.1 == t.name).flatMap (·.2)
        let others := if names.isEmpty then 0 else tokenSet tokens fun u => names.contains u.name
        others ^^^ (others &&& bit i)
      | none => 0
    leaders :=
      let hidden (s : Nat) : Bool := tokenCount ≤ s && isHidden s
      let filling := fillers hidden productions 100 (Array.replicate (symbolCount + 1) false)
      leadersOf (fun s => hidden s && filling.getD s false) productions }

end Tables

end CodeMetrics.Grammar
