import CodeMetrics.Json

/-!
# Records in JSON

A record is read from an object, whose unknown members are ignored, or from the array of the values
of its fields in their order. A value of an enumeration is read from its name, or from an object
with that name as its only member, whose value is null.
-/

namespace CodeMetrics.Json

/-- Whether no name occurs twice. -/
def distinctNames : List (String × Json) → Bool
  | [] => true
  | (name, _) :: ms => !(ms.any fun m => m.1 == name) && distinctNames ms

/-- **The fields given for a record** whose fields have the names `names`. An object may give a
field only once; an array may not have more elements than there are fields. -/
def record? (names : List String) : Json → Option (List (String × Json))
  | .obj ms =>
    let known := ms.filter fun m => names.contains m.1
    if distinctNames known then some known else none
  | .arr es => if es.length ≤ names.length then some (names.zip es) else none
  | _ => none

/-- The name of a value of an enumeration. -/
def enumName? : Json → Option String
  | .str s => some s
  | .obj [(name, .null)] => some name
  | _ => none

/-- A natural number that fits a 64-bit word. -/
def uint64? : Json → Option UInt64
  | .nat n => if n < UInt64.size then some (UInt64.ofNat n) else none
  | _ => none

/-- A natural number that fits a 32-bit word. -/
def uint32? : Json → Option UInt32
  | .nat n => if n < UInt32.size then some (UInt32.ofNat n) else none
  | _ => none

/-- A field that must be given, read by `read`. -/
def field? {α : Type} (fields : List (String × Json)) (name : String) (read : Json → Option α) :
    Option α :=
  (fields.lookup name).bind read

/-- A field that has a default, read by `read` when it is given. -/
def fieldOr? {α : Type} (fields : List (String × Json)) (name : String) (default : α)
    (read : Json → Option α) : Option α :=
  match fields.lookup name with
  | some v => read v
  | none => some default

end CodeMetrics.Json
