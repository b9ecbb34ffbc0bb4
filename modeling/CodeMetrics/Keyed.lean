/-!
# Keyed lists

A finite map from names to values, kept as a list of pairs with increasing names.
-/

namespace CodeMetrics

/-- Values under names, sorted by name. -/
structure Keyed (α : Type) where
  entries : List (String × α) := []
  deriving Inhabited

namespace Keyed

variable {α : Type}

/-- Puts a value under a name into a sorted list, in place of the one that was there. -/
def insertEntry (name : String) (value : α) : List (String × α) → List (String × α)
  | [] => [(name, value)]
  | (other, v) :: rest =>
    if name < other then (name, value) :: (other, v) :: rest
    else if name = other then (name, value) :: rest
    else (other, v) :: insertEntry name value rest

/-- **Puts a value under a name**, in place of the one that was there. -/
def insert (m : Keyed α) (name : String) (value : α) : Keyed α :=
  ⟨insertEntry name value m.entries⟩

/-- The value under a name. -/
def get? (m : Keyed α) (name : String) : Option α := m.entries.lookup name

/-- The names, in increasing order. -/
def names (m : Keyed α) : List String := m.entries.map Prod.fst

/-- The number of names. -/
def size (m : Keyed α) : Nat := m.entries.length

/-- Whether there is no name. -/
def isEmpty (m : Keyed α) : Bool := m.entries.isEmpty

end Keyed

end CodeMetrics
