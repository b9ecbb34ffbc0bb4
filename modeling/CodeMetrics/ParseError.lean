/-!
# Syntax errors

Where a text could not be parsed, and why.
-/

namespace CodeMetrics

/-- Why a text could not be parsed. -/
inductive SyntaxFault where
  /-- A token had to be invented. -/
  | missing (kind : String)
  /-- Some text had no place in the tree. -/
  | unexpected (snippet : String)
  /-- The tree has an error that no node of it shows. -/
  | unlocated
  /-- The parser gave up. -/
  | noTree
  deriving DecidableEq

/-- The words for a fault. -/
def SyntaxFault.message : SyntaxFault → String
  | missing kind => "missing `" ++ kind ++ "`"
  | unexpected snippet => "unexpected syntax `" ++ snippet ++ "`"
  | unlocated => "syntax error"
  | noTree => "parser produced no syntax tree"

/-- A syntax error: the byte it is found at, its line and column, counted from one, and what is
wrong there. -/
structure ParseError where
  offset : Nat
  line : Nat
  column : Nat
  fault : SyntaxFault
  deriving DecidableEq

/-- The text shown for a syntax error. -/
def ParseError.message (e : ParseError) : String :=
  "parse error at byte " ++ toString e.offset ++ " (line " ++ toString e.line ++ ", column " ++
    toString e.column ++ "): " ++ e.fault.message

end CodeMetrics
