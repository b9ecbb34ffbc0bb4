import CodeMetrics.Text.Split

/-!
# Scopes

The named scopes around a callable, and the names of the namespaces opened so far. Scopes are
listed from the outermost to the innermost.
-/

namespace CodeMetrics

/-- A named scope. -/
inductive Scope where
  | ofNamespace (name : String)
  | ofType (name : String)
  deriving DecidableEq

namespace Scope

/-- The name of a scope. -/
def name : Scope → String
  | .ofNamespace n => n
  | .ofType n => n

/-- What stands between the parts of a qualified name. -/
def separator : String := "::"

/-- A name with the names of the scopes around it. -/
def qualify (scopes : List Scope) (name : String) : String :=
  separator.intercalate (scopes.map Scope.name ++ [name])

/-- The name of a scope that is a type. -/
def typeName? : Scope → Option String
  | .ofNamespace _ => none
  | .ofType n => some n

/-- The name of the innermost type. -/
def innermostType? (scopes : List Scope) : Option String := scopes.reverse.findSome? typeName?

/-- The text before the last separator of a name. -/
def qualifierOf? (name : String) : Option String :=
  (Text.splitLast? separator.toList name.toList).map fun (before, _) => String.ofList before

/-- The prefixes of a name that end before a separator or at its end, shortest first. Segments are
joined to what stands before them with a separator, unless that is empty. -/
def segmentPrefixes (joined : List Char) : List (List Char) → List String
  | [] => []
  | s :: rest =>
    let next := if joined.isEmpty then s else joined ++ separator.toList ++ s
    String.ofList next :: segmentPrefixes next rest

/-- The names that become known when a namespace with a given qualified name is opened. -/
def openedNames (qualified : String) : List String :=
  segmentPrefixes [] (Text.splitOn separator.toList qualified.toList)

/-- Whether a qualifier, as written or within the scopes around it, is among the known names of
namespaces. -/
def namesNamespace (known : List String) (scopes : List Scope) (qualifier : String) : Bool :=
  known.contains qualifier || known.contains (qualify scopes qualifier)

end Scope

end CodeMetrics
