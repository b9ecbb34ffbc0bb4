/-!
# Cutting text at a separator

`splitOn` cuts at every occurrence of a separator from the left, `splitFirst?` at the first and
`splitLast?` at the last one.
-/

namespace CodeMetrics.Text

/-- The rest of `cs` after the separator, when `cs` begins with it. -/
def afterPrefix? : List Char → List Char → Option (List Char)
  | [], cs => some cs
  | _ :: _, [] => none
  | s :: sep, c :: cs => if s = c then afterPrefix? sep cs else none

/-- The text before and after the first occurrence of the separator. -/
def splitFirst? (sep : List Char) : List Char → Option (List Char × List Char)
  | [] => match sep with
    | [] => some ([], [])
    | _ => none
  | c :: cs =>
    match afterPrefix? sep (c :: cs) with
    | some rest => some ([], rest)
    | none => (splitFirst? sep cs).map fun (before, after) => (c :: before, after)

/-- The text before and after the last occurrence of the separator. -/
def splitLast? (sep : List Char) : List Char → Option (List Char × List Char)
  | [] => match sep with
    | [] => some ([], [])
    | _ => none
  | c :: cs =>
    match splitLast? sep cs with
    | some (before, after) => some (c :: before, after)
    | none => (afterPrefix? sep (c :: cs)).map fun rest => ([], rest)

/-- Cuts at every occurrence of the separator, counting at most `fuel` of them. -/
def splitOnWith (sep : List Char) : Nat → List Char → List (List Char)
  | 0, cs => [cs]
  | fuel + 1, cs =>
    match splitFirst? sep cs with
    | some (before, after) => before :: splitOnWith sep fuel after
    | none => [cs]

/-- Cuts at every occurrence of a separator that is not empty, from the left. -/
def splitOn (sep : List Char) (cs : List Char) : List (List Char) :=
  splitOnWith sep cs.length cs

/-- Puts a text in place of the first occurrence of another one, and says whether there was one. -/
def replaceFirst (text old new : String) : String × Bool :=
  match splitFirst? old.toList text.toList with
  | some (before, after) => (String.ofList (before ++ new.toList ++ after), true)
  | none => (text, false)

end CodeMetrics.Text
