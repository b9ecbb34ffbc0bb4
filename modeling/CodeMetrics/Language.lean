/-!
# Source languages

The two languages the analysis reads, with the file extensions that select them and the spellings
a user may give. `Language.ofExtension?` is case sensitive, `Language.ofName` is not.
-/

namespace CodeMetrics

/-- A language the analysis reads. -/
inductive Language where
  | c
  | cpp
  deriving DecidableEq, Inhabited

namespace Language

/-- The languages in their fixed order. -/
def all : List Language := [.c, .cpp]

/-- The file extensions of a language. -/
def extensions : Language → List String
  | .c => ["c", "h"]
  | .cpp => ["cc", "cpp", "cxx", "c++", "hpp", "hh", "hxx", "h++"]

/-- The language whose extensions contain `ext`. -/
def ofExtension? (ext : String) : Option Language :=
  all.find? fun language => language.extensions.contains ext

/-- The extension given to sources written for this language. -/
def canonicalExtension : Language → String
  | .c => "c"
  | .cpp => "cpp"

/-- The name shown to a reader. -/
def display : Language → String
  | .c => "C"
  | .cpp => "C++"

/-- The name under which a stored report records the language. -/
def tag : Language → String
  | .c => "C"
  | .cpp => "Cpp"

/-- The language stored under a tag. -/
def ofTag? : String → Option Language
  | "C" => some .c
  | "Cpp" => some .cpp
  | _ => none

/-- Upper-case ASCII letters become lower case; all other characters stay. -/
def asciiLower (s : String) : String :=
  String.ofList (s.toList.map Char.toLower)

/-- A name of a language that is not read. -/
structure Unsupported where
  /-- The name asked for, in lower case. -/
  name : String
  deriving DecidableEq

/-- The text shown for an unsupported name. -/
def Unsupported.message (e : Unsupported) : String :=
  "unsupported language '" ++ e.name ++ "'"

/-- The language with a given name, whatever the case of its letters. -/
def ofName (name : String) : Except Unsupported Language :=
  match asciiLower name with
  | "c" => .ok .c
  | "cpp" => .ok .cpp
  | "c++" => .ok .cpp
  | "cxx" => .ok .cpp
  | other => .error ⟨other⟩

/-- C comes before C++. -/
def rank : Language → Nat
  | .c => 0
  | .cpp => 1

end Language

end CodeMetrics
