import CodeMetrics.Grammar.Rule
import Std.Data.HashMap

/-!
# Productions

A grammar's rules as plain productions, the form a parser is built from: repetitions become rules
of their own (`Expansion`), choices are multiplied out (`Rule.alternatives`), the remaining
sequences are read off as lists of steps (`Draft.ofRule`), and inlined rules are replaced by their
alternatives (`Draft.inline`).
-/

namespace CodeMetrics.Grammar

/-! ### Repetitions -/

namespace Rule

/-- A text that tells rules apart. -/
def key : Rule → String
  | empty => "e"
  | token t => "t<" ++ t.key ++ ">"
  | ref n => "r<" ++ n ++ ">"
  | seq a b => "s(" ++ a.key ++ "," ++ b.key ++ ")"
  | alt a b => "a(" ++ a.key ++ "," ++ b.key ++ ")"
  | plus r => "p(" ++ r.key ++ ")"
  | field n r => "f<" ++ n ++ ">(" ++ r.key ++ ")"
  | shown n b r => "n<" ++ n ++ (if b then "+" else "-") ++ ">(" ++ r.key ++ ")"
  | prec n a r =>
    "c<" ++ toString n ++ (match a with | none => "" | some .left => "l" | some .right => "r") ++
      ">(" ++ r.key ++ ")"
  | dynamic n r => "d<" ++ toString n ++ ">(" ++ r.key ++ ")"

end Rule

/-- The rules made for repetitions so far, by what they repeat; equal repetitions share a rule. -/
structure Expansion where
  byKey : Std.HashMap String String := {}
  made : Array (String × Rule) := #[]

namespace Expansion

/-- Replaces each repetition in a rule by a rule of its own. A repetition rule is either what it
repeats, or two repetitions one after the other. -/
def expand (owner : String) : Rule → Expansion → Rule × Expansion
  | .empty, e => (.empty, e)
  | .token t, e => (.token t, e)
  | .ref n, e => (.ref n, e)
  | .seq a b, e =>
    let (a, e) := expand owner a e
    let (b, e) := expand owner b e
    (.seq a b, e)
  | .alt a b, e =>
    let (a, e) := expand owner a e
    let (b, e) := expand owner b e
    (.alt a b, e)
  | .plus r, e =>
    let (r, e) := expand owner r e
    let key := r.key
    match e.byKey[key]? with
    | some name => (.ref name, e)
    | none =>
      let name := owner ++ "_repeat" ++ toString e.made.size
      (.ref name,
        { byKey := e.byKey.insert key name
          made := e.made.push (name, .alt (.seq (.ref name) (.ref name)) r) })
  | .field n r, e =>
    let (r, e) := expand owner r e
    (.field n r, e)
  | .shown n b r, e =>
    let (r, e) := expand owner r e
    (.shown n b r, e)
  | .prec n a r, e =>
    let (r, e) := expand owner r e
    (.prec n a r, e)
  | .dynamic n r, e =>
    let (r, e) := expand owner r e
    (.dynamic n r, e)

end Expansion

/-! ### Choices -/

namespace Rule

/-- The ways of making every choice in a rule. -/
def alternatives : Rule → List Rule
  | seq a b =>
    let bs := b.alternatives
    a.alternatives.flatMap fun x => bs.map fun y => seq x y
  | alt a b => a.alternatives ++ b.alternatives
  | field n r => r.alternatives.map (field n)
  | shown n b r => r.alternatives.map (shown n b)
  | prec n a r => r.alternatives.map (prec n a)
  | dynamic n r => r.alternatives.map (dynamic n)
  | r => [r]

end Rule

/-- Another name under which a part is shown. -/
structure Shown where
  name : String
  named : Bool
  deriving DecidableEq

/-- A step of a production: the symbol, by name, and what its surroundings say of it. -/
structure DraftStep where
  symbol : String
  isToken : Bool
  shown : Option Shown := none
  field : Option String := none
  level : Option Int := none
  assoc : Option Assoc := none
  deriving DecidableEq

/-- A production before its symbols are numbered. -/
structure Draft where
  steps : List DraftStep := []
  dynamic : Int := 0
  deriving DecidableEq

namespace Draft

/-- What the enclosing rules say of the steps being read. -/
structure Context where
  shown : Option Shown := none
  field : Option String := none
  level : Option Int := none
  assoc : Option Assoc := none

/-- Changes the last step. -/
def mapLast (f : DraftStep → DraftStep) : List DraftStep → List DraftStep
  | [] => []
  | [s] => [f s]
  | s :: ss => s :: mapLast f ss

/-- The steps of a rule without choices or repetitions, with the dynamic precedence of largest
size on the way. `atEnd` says whether nothing follows in the production: a precedence reaches past
the last step of its rule only there. -/
def read (ctx : Context) (atEnd : Bool) (draft : Draft) : Rule → Draft
  | .empty | .plus _ | .alt _ _ => draft
  | .token t =>
    { draft with steps := draft.steps ++
        [⟨t.key, true, ctx.shown, ctx.field, ctx.level, ctx.assoc⟩] }
  | .ref n =>
    { draft with steps := draft.steps ++
        [⟨n, false, ctx.shown, ctx.field, ctx.level, ctx.assoc⟩] }
  | .seq a b => read ctx atEnd (read ctx false draft a) b
  | .field n r => read { ctx with field := some n } atEnd draft r
  | .shown n b r => read { ctx with shown := some ⟨n, b⟩ } atEnd draft r
  | .prec n a r =>
    let inner := read { ctx with level := some n, assoc := a.or ctx.assoc } atEnd draft r
    if !atEnd && inner.steps.length > draft.steps.length then
      let leave (s : DraftStep) : DraftStep :=
        { s with level := ctx.level, assoc := if a.isSome then ctx.assoc else s.assoc }
      { inner with steps := mapLast leave inner.steps }
    else inner
  | .dynamic n r =>
    let dynamic := if n.natAbs > draft.dynamic.natAbs then n else draft.dynamic
    read ctx atEnd { draft with dynamic } r

/-- The productions of a rule without repetitions, each once. -/
def ofRule (r : Rule) : List Draft :=
  (r.alternatives.map (read {} true {})).eraseDups

/-- A production with one of its steps replaced by the steps of another one. -/
def splice (before : List DraftStep) (step : DraftStep) (after : List DraftStep)
    (outer : Int) (inner : Draft) : Draft :=
  let steps := inner.steps.map fun s =>
    { s with shown := step.shown.or s.shown, field := step.field.or s.field }
  let close (s : DraftStep) : DraftStep :=
    { s with level := s.level.or step.level, assoc := s.assoc.or step.assoc }
  let steps := mapLast close steps
  { steps := before ++ steps ++ after
    dynamic := if inner.dynamic.natAbs > outer.natAbs then inner.dynamic else outer }

/-- The productions that result from replacing every inlined symbol by its alternatives; `fuel`
bounds the number of replacements in one production. -/
def inline (table : String → Option (List Draft)) : Nat → Draft → List Draft
  | 0, draft => [draft]
  | fuel + 1, draft =>
    match draft.steps.findIdx? fun s => !s.isToken && (table s.symbol).isSome with
    | none => [draft]
    | some i =>
      match draft.steps[i]? with
      | none => [draft]
      | some step =>
        ((table step.symbol).getD []).flatMap fun inner =>
          inline table fuel
            (splice (draft.steps.take i) step (draft.steps.drop (i + 1)) draft.dynamic inner)

end Draft

end CodeMetrics.Grammar
