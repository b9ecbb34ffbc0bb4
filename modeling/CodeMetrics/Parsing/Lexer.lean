import CodeMetrics.Grammar.Tables
import CodeMetrics.Parsing.Source

/-!
# Reading tokens

A token is read by walking along the positions of all the token patterns that are acceptable, at
once. Blanks may stand before every token that is not immediate, so they are positions too.

The walk goes on as long as some pattern can take the next character. Once a token has matched, a
longer match is preferred, except that a walk of lower rank, or one that would only skip blanks,
does not go on. Of several tokens that match the same text the one of highest rank wins, then the
one of highest preference, then the first in the grammar.
-/

namespace CodeMetrics.Parsing

open Grammar

/-- The positions of all tokens of a grammar. The token number past the last stands for blanks. -/
structure LexTables where
  tokenCount : Nat
  token : Array Nat
  classes : Array CharClass
  follow : Array (Array Nat)
  final : Array Bool
  /-- Where a match of a token may begin. -/
  first : Array (Array Nat)
  rank : Array Int
  preference : Array Nat
  order : Array Nat
  immediate : Nat
  blanks : Array Nat

namespace LexTables

/-- One blank, or a line break after a backslash. -/
def blank : Pattern :=
  .alt (.chars .space) (.all [.text "\\", .opt (.text "\r"), .text "\n"])

/-- Adds the positions of a token. -/
def add (l : LexTables) (token : Nat) (p : Pattern) : LexTables :=
  let base := l.classes.size
  let positions := Positions.ofPattern p base
  let count := positions.classes.size
  let follow := positions.links.foldl
    (fun (f : Array (Array Nat)) (i, js) =>
      f.modify i fun old => js.foldl (fun acc j => if acc.contains j then acc else acc.push j) old)
    (l.follow ++ Array.replicate count #[])
  let final := positions.last.foldl (fun (f : Array Bool) i => f.set! i true)
    (l.final ++ Array.replicate count false)
  { l with
    token := l.token ++ Array.replicate count token
    classes := l.classes ++ positions.classes
    follow
    final
    first := l.first.push positions.first.toArray }

/-- The positions of a grammar's tokens. -/
def ofTables (t : Tables) : LexTables :=
  let base : LexTables :=
    { tokenCount := t.tokenCount
      token := #[]
      classes := #[]
      follow := #[]
      final := #[]
      first := #[]
      rank := t.tokens.map (·.rank)
      preference := t.tokens.map (·.preference)
      order := t.tokenOrder
      immediate := Tables.tokenSet t.tokens (·.immediate)
      blanks := #[] }
  let l := (Array.range t.tokenCount).foldl
    (fun (l : LexTables) i => l.add i ((t.tokens[i]?).map (·.pattern) |>.getD .empty)) base
  let l := l.add t.tokenCount blank
  { l with blanks := l.first.getD t.tokenCount #[] }

/-- Whether of two tokens matching the same text the first is taken. -/
def prefers (l : LexTables) (a b : Nat) : Bool :=
  let rank i := l.rank.getD i 0
  let preference i := l.preference.getD i 0
  let order i := l.order.getD i 0
  if rank a ≠ rank b then rank a > rank b
  else if preference a ≠ preference b then preference a > preference b
  else order a < order b

end LexTables

/-- The outcome of reading a token. -/
structure Lexed where
  /-- The token and the place where it ends, if one was found. -/
  found : Option (Nat × Nat)
  /-- Where the token begins, after the blanks. -/
  start : Nat
  /-- How far the text was looked at. -/
  reached : Nat

namespace Lexed

/-- Adds positions without repeating any. -/
def mergeInto (acc : Array Nat) (more : Array Nat) : Array Nat :=
  more.foldl (fun acc p => if acc.contains p then acc else acc.push p) acc

/-- The state of a walk: the positions that may come next, the token that matches what has been
read, and the outcome so far. -/
structure Walk where
  next : Array Nat
  complete : Option Nat
  /-- Whether only blanks have been read. -/
  inBlanks : Bool
  outcome : Lexed

/-- Walks on from a place. `restart` are the positions that may come after blanks, and `endOk`
says whether the end of the text is acceptable. -/
def walk (l : LexTables) (source : Source) (restart : Array Nat) (endOk : Bool) :
    Nat → Nat → Walk → Lexed
  | 0, _, w => w.outcome
  | fuel + 1, place, w =>
    match source.chars[place]? with
    | none =>
      if endOk && w.inBlanks then { found := some (0, place), start := place, reached := place }
      else w.outcome
    | some c =>
      let taken := w.next.filter fun p => (l.classes.getD p .none).contains c
      if taken.isEmpty then w.outcome
      else
        let tokenAt (p : Nat) : Nat := l.token.getD p 0
        let isBlank (p : Nat) : Bool := tokenAt p == l.tokenCount
        let onlyBlank := taken.all isBlank
        let goOn := match w.complete with
          | none => true
          | some t =>
            let rankOf (p : Nat) : Int := l.rank.getD (tokenAt p) 0
            let rank := taken.foldl (fun acc p => max acc (rankOf p)) (rankOf (taken.getD 0 0))
            let own := l.rank.getD t 0
            if rank < own then false
            else if rank == own then
              if onlyBlank then false
              else !(w.next.any isBlank) ||
                taken.any fun p =>
                  tokenAt p == t || (isBlank p && !l.immediate.testBit t)
            else true
        if !goOn then w.outcome
        else
          let place' := place + 1
          let complete := taken.foldl
            (fun (best : Option Nat) p =>
              if l.final.getD p false && !isBlank p then
                match best with
                | none => some (tokenAt p)
                | some b => if l.prefers b (tokenAt p) then some b else some (tokenAt p)
              else best)
            none
          let next := taken.foldl (fun acc p => mergeInto acc (l.follow.getD p #[])) #[]
          let next :=
            if taken.any fun p => isBlank p && l.final.getD p false then
              mergeInto (mergeInto next l.blanks) restart
            else next
          let outcome := { w.outcome with reached := place' }
          let outcome := if onlyBlank then { outcome with start := place' } else outcome
          let outcome := match complete with
            | some t => { outcome with found := some (t, place') }
            | none => outcome
          walk l source restart endOk fuel place'
            { next, complete, inBlanks := w.inBlanks && onlyBlank, outcome }

/-- **Reads a token** out of a set, from a place. -/
def read (l : LexTables) (source : Source) (set : Nat) (place : Nat) : Lexed :=
  let candidates := (Array.range l.tokenCount).filter fun t => t != 0 && set.testBit t
  let positions (ts : Array Nat) : Array Nat :=
    ts.foldl (fun acc t => acc ++ l.first.getD t #[]) #[]
  let restart := positions (candidates.filter fun t => !l.immediate.testBit t)
  let immediate := positions (candidates.filter fun t => l.immediate.testBit t)
  walk l source restart (set.testBit 0) (source.size + 1 - place) place
    { next := immediate ++ restart ++ l.blanks
      complete := none
      inBlanks := true
      outcome := { found := none, start := place, reached := place } }

end Lexed

end CodeMetrics.Parsing
