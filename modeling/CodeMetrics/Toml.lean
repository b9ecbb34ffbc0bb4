/-!
# TOML values

A value of the configuration format TOML, and the tables of a document. A table remembers how it was
made, since that decides in which ways it may still grow: `Toml.assign`, `Toml.openTable` and
`Toml.openArray` refuse to define a name twice.
-/

namespace CodeMetrics

/-- How a table was made. -/
inductive TableOrigin where
  /-- Between braces. Such a table is complete. -/
  | braces
  /-- As a table above one with a header. -/
  | implied
  /-- By a key with dots. -/
  | dotted
  /-- By its own header. -/
  | header
  deriving DecidableEq

/-- A TOML value. -/
inductive Toml where
  | str (s : String)
  | int (n : Int)
  /-- A number that is not whole, as written. -/
  | float (text : String)
  | bool (b : Bool)
  /-- A date, a time, or both, as written. -/
  | moment (text : String)
  | arr (elements : List Toml)
  /-- The tables of a repeated header. -/
  | tables (elements : List Toml)
  | table (origin : TableOrigin) (members : List (String × Toml))
  deriving Inhabited

namespace Toml

/-- Puts a value under a name that has one already. -/
def replaceMember (name : String) (value : Toml) (members : List (String × Toml)) :
    List (String × Toml) :=
  members.map fun m => if m.1 = name then (name, value) else m

/-- A change of a table, which may be refused. -/
abbrev Change := TableOrigin → List (String × Toml) → Option Toml

/-- Changes the table that a path leads to, starting from a table. Tables that are missing on the way
are made; of the tables of a repeated header the last one is meant. With `viaDots` the path is one of
a key with dots, which may not lead into a table that has a header. -/
def changeAt (viaDots : Bool) (change : Change) : List String → Change
  | [], origin, members => change origin members
  | name :: path, origin, members =>
    let made := if viaDots then TableOrigin.dotted else .implied
    match members.lookup name with
    | none => do
      let inner ← changeAt viaDots change path made []
      return .table origin (members ++ [(name, inner)])
    | some (.table .braces _) => none
    | some (.table o ms) =>
      if viaDots && o == .header then none
      else do
        let inner ← changeAt viaDots change path o ms
        return .table origin (replaceMember name inner members)
    | some (.tables es) =>
      match es.getLast? with
      | some (.table o ms) => do
        let inner ← changeAt viaDots change path o ms
        return .table origin (replaceMember name (.tables (es.dropLast ++ [inner])) members)
      | _ => none
    | some _ => none

/-- Gives a value to a name that has none. -/
def assignName (name : String) (value : Toml) (plain : Bool) : Change := fun origin members =>
  -- a key with dots ends in a table that was made by such a key
  if (origin == .dotted) == plain then none
  else if (members.lookup name).isSome then none
  else some (.table origin (members ++ [(name, value)]))

/-- **Gives a value to a key**, the last name of which is apart. -/
def assign (path : List String) (name : String) (value : Toml) : Change :=
  changeAt true (assignName name value path.isEmpty) path

/-- Makes a table with a header under a name. -/
def openTableName (name : String) : Change := fun origin members =>
  match members.lookup name with
  | none => some (.table origin (members ++ [(name, .table .header [])]))
  | some (.table .implied ms) => some (.table origin (replaceMember name (.table .header ms) members))
  | some _ => none

/-- **Makes the table that a header names**, the last name of which is apart. -/
def openTable (path : List String) (name : String) : Change :=
  changeAt false (openTableName name) path

/-- Adds a table to those of a repeated header. -/
def openArrayName (name : String) : Change := fun origin members =>
  match members.lookup name with
  | none => some (.table origin (members ++ [(name, .tables [.table .header []])]))
  | some (.tables es) =>
    some (.table origin (replaceMember name (.tables (es ++ [.table .header []])) members))
  | some _ => none

/-- **Adds the table that a repeated header names**, the last name of which is apart. -/
def openArray (path : List String) (name : String) : Change :=
  changeAt false (openArrayName name) path

/-- Applies a change to a value that is a table. -/
def change? (change : Change) : Toml → Option Toml
  | .table origin members => change origin members
  | _ => none

end Toml

end CodeMetrics
