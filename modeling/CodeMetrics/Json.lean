/-!
# JSON values

A value of the data format JSON. Of numbers only the natural ones are read as such; any other
number keeps the text it was written with. The members of an object are kept in order, repeated
names included.
-/

namespace CodeMetrics

/-- A JSON value. -/
inductive Json where
  | null
  | bool (b : Bool)
  /-- A natural number, written without sign, fraction or exponent. -/
  | nat (n : Nat)
  /-- Any other number. -/
  | number (text : String)
  | str (s : String)
  | arr (elements : List Json)
  | obj (members : List (String × Json))
  deriving Inhabited

namespace Json

/-- The member of an object with a given name. -/
def member? (name : String) : Json → Option Json
  | obj members => members.lookup name
  | _ => none

/-- The characters of a text. -/
def str? : Json → Option String
  | str s => some s
  | _ => none

/-- A natural number. -/
def nat? : Json → Option Nat
  | nat n => some n
  | _ => none

/-- A truth value. -/
def bool? : Json → Option Bool
  | bool b => some b
  | _ => none

/-- The elements of an array. -/
def arr? : Json → Option (List Json)
  | arr es => some es
  | _ => none

/-- The members of an object. -/
def obj? : Json → Option (List (String × Json))
  | obj ms => some ms
  | _ => none

end Json

end CodeMetrics
