import CodeMetrics.Cst.OfSyntax
import CodeMetrics.Grammar.C
import CodeMetrics.Grammar.Cpp
import CodeMetrics.LineIndex
import CodeMetrics.ParseError
import CodeMetrics.Parsing.Machine
import CodeMetrics.Parsing.Tree

/-!
# Parsed documents

A source text together with its structure tree and its line index.

* `SyntaxTree.ofText?` – the syntax tree of a text in a language;
* `Document.ofTree` – what a syntax tree of a text amounts to: a document, or the first error in it;
* `Document.parse` – both in one.
-/

namespace CodeMetrics

/-- A parsed source text. -/
structure Document where
  language : Language
  root : Cst.Node
  lines : LineIndex

/-! ### Parsing -/

namespace Grammar

/-- The tables a parser for a language needs. -/
structure ParserTables where
  tables : Tables
  /-- The automaton, which is built when the first text is parsed. -/
  automaton : Thunk Parsing.Automaton
  lex : Parsing.LexTables

/-- The parser tables of a grammar. -/
def parserTables (g : Grammar) : ParserTables :=
  let tables := Tables.ofGrammar g
  { tables
    automaton := Thunk.mk fun _ => Parsing.Automaton.ofTables tables
    lex := Parsing.LexTables.ofTables tables }

/-- The parser tables of C. -/
def C.parserTables : ParserTables := C.grammar.parserTables

/-- The parser tables of C++. -/
def Cpp.parserTables : ParserTables := Cpp.grammar.parserTables

/-- The parser tables of a language. -/
def parserTablesOf : Language → ParserTables
  | .c => C.parserTables
  | .cpp => Cpp.parserTables

end Grammar

/-- The syntax tree of the empty text, which is the same in both languages. -/
def SyntaxTree.ofEmpty : SyntaxTree where
  kind := "translation_unit"
  named := true
  field := none
  isError := false
  isMissing := false
  hasError := false
  start := ⟨0, 0, 0⟩
  stop := ⟨0, 0, 0⟩
  children := []

/-- The syntax tree of a text. No parser is needed for the empty text. -/
def SyntaxTree.ofText? (language : Language) (text : String) : Option SyntaxTree :=
  if text.isEmpty then some .ofEmpty
  else
    let p := Grammar.parserTablesOf language
    let source := Parsing.Source.ofString text
    (Parsing.Machine.run p.automaton.get p.lex source).bind (·.toSyntaxTree p.tables source)

namespace Document

/-! ### Errors -/

/-- The most characters of unparsed text that a message shows. -/
def snippetLimit : Nat := 40

/-- The first line of a text, without the line end. -/
def firstLine (cs : List Char) : List Char :=
  let line := cs.takeWhile (· ≠ '\n')
  if line.length < cs.length && line.getLast? == some '\r' then line.dropLast else line

/-- The part of unparsed text that a message shows. -/
def snippet (text : List Char) (n : SyntaxTree) : String :=
  let whole := ((Cst.bytesBetween? text n.start.byte n.stop.byte).getD "").toList
  String.ofList (Text.trim ((firstLine whole).take snippetLimit))

/-- The error that a node stands for. -/
def errorAt (text : List Char) (n : SyntaxTree) : ParseError where
  offset := n.start.byte
  line := n.start.row + 1
  column := n.start.column + 1
  fault := if n.isMissing then .missing n.kind else .unexpected (snippet text n)

/-- An error at the beginning of the text. -/
def errorAtStart (fault : SyntaxFault) : ParseError := ⟨0, 1, 1, fault⟩

/-! ### Documents -/

/-- **The document of a syntax tree**, or the first error in it. -/
def ofTree (language : Language) (text : String) (root : SyntaxTree) : Except ParseError Document :=
  let chars := text.toList
  if root.hasError then
    match root.firstError? with
    | some n => .error (errorAt chars n)
    | none => .error (errorAtStart .unlocated)
  else
    let (node, comments) := Cst.ofSyntax (Vocabulary.ofLanguage language) chars root
    .ok { language, root := node, lines := LineIndex.ofText text comments }

/-- **Parses a text.** -/
def parse (language : Language) (text : String) : Except ParseError Document :=
  match SyntaxTree.ofText? language text with
  | none => .error (errorAtStart .noTree)
  | some root => ofTree language text root

end Document

end CodeMetrics
