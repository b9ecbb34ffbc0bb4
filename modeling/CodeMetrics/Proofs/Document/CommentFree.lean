import CodeMetrics.Analysis
import CodeMetrics.Proofs.Cst.CommentFree
import CodeMetrics.Proofs.Metrics.Options
import CodeMetrics.Proofs.StructuralUnit.Traversal

/-!
# Documents without comments

A document is compared with the one that is left when its comments are taken out of the syntax tree
and blanked in the text. The two have the same lines of code, and trees that differ in the texts of
names only. If no comment meets a name, the models differ in the number of comment lines only, and
reports in what is computed from that number (`ParsedText.comments_reach_names_only`).

A comment inside of a name does reach the model, since the text of a name is all that stands between
its first and its last byte (`ParsedText.comment_in_name_reaches_units`).
-/

namespace CodeMetrics

open StructuralUnit ReportField

/-! ### Models and lines -/

namespace StructuralModel

/-- A model with a number of comment lines in place of its own. -/
def withCommentLines (n : Nat) (m : StructuralModel) : StructuralModel :=
  { m with lines := { m.lines with commentLines := n } }

end StructuralModel

/-- The units of a tree depend on the lines of code only. -/
theorem StructuralUnit.collect_congr {lines lines' : LineIndex} (h : lines'.code = lines.code)
    (root : Cst.Node) : collect lines' root = collect lines root := by
  have hmeet : Place.meet lines' = Place.meet lines := by
    cases lines
    cases lines'
    cases h
    rfl
  rw [collect_eq, collect_eq, hmeet]

/-- **The model of a document sees its comments in the number of comment lines only.** -/
theorem StructuralModel.ofDocument_congr {d d' : Document} (hlanguage : d'.language = d.language)
    (hroot : d'.root = d.root) (hcode : d'.lines.code = d.lines.code) :
    ofDocument d' = (ofDocument d).map (withCommentLines d'.lines.commentCount) := by
  unfold ofDocument
  rw [hlanguage, hroot, collect_congr hcode]
  cases collect d.lines d.root with
  | error e => rfl
  | ok units => simp [bind, Except.bind, pure, Except.pure, Except.map, withCommentLines,
      LineIndex.stats, LineIndex.totalLines, LineIndex.realLines, hcode]

/-! ### Reports -/

/-- The fields of a summary that are computed from the number of comment lines. -/
def commentFields : List String := ["comment_lines", "excessive_comments", "comment_ratio"]

/-- **Results that are the same up to comments**: the same error, or reports with the same units
that differ in the fields about comments only. -/
def SameUpToComments : Except AnalysisError Report → Except AnalysisError Report → Prop
  | .ok r, .ok r' => r.units = r'.units ∧ r.DiffersOnlyIn commentFields [] r'
  | .error e, .error e' => e = e'
  | _, _ => False

theorem StructuralModel.report_withCommentLines (config : Config) (m : StructuralModel) (n : Nat) :
    (m.report config).DiffersOnlyIn commentFields [] ((m.withCommentLines n).report config) := by
  refine Report.differsOnlyIn_of_agreeBut rfl ?_ (List.forall₂_same.2 fun u _ f _ _ => rfl)
  simp [AgreeBut, FileSummary.table, Distribution.table, commentFields, report, summary,
    withCommentLines, within, ofUInt64, ofUInt32, ofBool, ofHundredths]

theorem Document.analyze_congr {d d' : Document} (hlanguage : d'.language = d.language)
    (hroot : d'.root = d.root) (hcode : d'.lines.code = d.lines.code) (config : Config) :
    SameUpToComments (d.analyze config) (d'.analyze config) := by
  unfold analyze
  rw [StructuralModel.ofDocument_congr hlanguage hroot hcode]
  cases StructuralModel.ofDocument d with
  | error e => exact rfl
  | ok m => exact ⟨rfl, m.report_withCommentLines config _⟩

/-! ### Parsed texts -/

/-- A text with its syntax tree. -/
structure ParsedText where
  language : Language
  text : String
  root : SyntaxTree

namespace ParsedText

/-- The comments of the tree. -/
def comments (p : ParsedText) : List Span := p.root.commentSpans (.ofLanguage p.language)

/-- The document of a tree without errors. -/
def document (p : ParsedText) : Document :=
  let converted := Cst.ofSyntax (.ofLanguage p.language) p.text.toList p.root
  { language := p.language, root := converted.1, lines := LineIndex.ofText p.text converted.2 }

/-- **A parsed text without its comments**: they are taken out of the tree, and their bytes are
blanked in the text. -/
def bare (p : ParsedText) : ParsedText where
  language := p.language
  text := .ofList (Text.blankBytes p.comments 0 p.text.toList)
  root := p.root.withoutComments (.ofLanguage p.language)

/-- How the comments of a parsed text lie: they end between characters, and operators are clear of
them. -/
structure CommentsApart (p : ParsedText) : Prop where
  ends : Text.EndBetween p.comments 0 p.text.toList
  operators : p.root.OperatorsClear (.ofLanguage p.language) p.comments

variable {p : ParsedText}

theorem ofTree_eq_document (h : p.root.hasError = false) :
    Document.ofTree p.language p.text p.root = .ok p.document := by
  simp [Document.ofTree, document, h]

theorem root_document (p : ParsedText) :
    p.document.root = Cst.image (.ofLanguage p.language) p.text.toList none p.root :=
  (Cst.ofSyntax_eq _ _ _).1

theorem comments_bare (p : ParsedText) : p.bare.comments = [] :=
  SyntaxTree.commentSpans_withoutComments _ p.root

theorem toList_text_bare (p : ParsedText) :
    p.bare.text.toList = Text.blankBytes p.comments 0 p.text.toList :=
  String.toList_ofList

/-! ### Lines -/

/-- Which lines hold code depends on what comments there are, not on the order in which they are
collected. -/
theorem code_document (p : ParsedText) :
    p.document.lines.code = (LineIndex.ofText p.text p.comments).code := by
  have hperm : (Cst.ofSyntax (.ofLanguage p.language) p.text.toList p.root).2.Perm p.comments :=
    (Cst.ofSyntax_eq _ _ _).2
  simp only [document, LineIndex.ofText]
  rw [LineIndex.blankComments_congr fun s => hperm.mem_iff]

theorem code_document_bare (p : ParsedText) :
    p.bare.document.lines.code = p.document.lines.code := by
  rw [code_document, code_document, comments_bare]
  exact LineIndex.code_ofText_blankBytes p.text p.comments

theorem commentLines_document_bare (p : ParsedText) : p.bare.document.lines.commentLines = [] := by
  have hperm : (Cst.ofSyntax (.ofLanguage p.language) p.bare.text.toList p.bare.root).2.Perm
      p.bare.comments := (Cst.ofSyntax_eq _ _ _).2
  rw [comments_bare] at hperm
  have hnil := hperm.eq_nil
  simp only [document, LineIndex.ofText]
  rw [show p.bare.language = p.language from rfl, hnil]
  rfl

/-! ### Trees -/

theorem root_document_bare (h : p.CommentsApart) :
    p.bare.document.root = p.document.root.reread p.bare.text.toList := by
  rw [root_document, root_document, toList_text_bare]
  exact Cst.image_withoutComments h.ends none h.operators

/-- A text that no comment meets is read from the blanked text as before. -/
theorem textIn_text_bare (h : p.CommentsApart) {n : Cst.Node} (hn : n ∈ p.document.root.nodes)
    (hclear : n.kind.capturesText → n.span.ClearOf p.comments) :
    n.textIn p.bare.text.toList = n.text := by
  rw [root_document] at hn
  rw [toList_text_bare, Cst.Node.textIn_blankBytes h.ends hclear,
    Cst.textIn_of_mem_nodes_image hn]

/-- **Comments reach a document in the texts of names only.** Without its comments a parsed text
gives the same tree but for the texts that are read, the same lines of code, and no comment lines. A
text that no comment meets is read as before. The trees are the same just if all texts are, so at
least if comments keep clear of names; then the model is the same but for the number of comment
lines, and a report is the same but for what is computed from that number. -/
theorem comments_reach_names_only (h : p.CommentsApart) :
    (p.root.hasError = false → Document.ofTree p.language p.text p.root = .ok p.document ∧
      Document.ofTree p.language p.bare.text p.bare.root = .ok p.bare.document) ∧
      p.bare.document.root = p.document.root.reread p.bare.text.toList ∧
      (∀ n ∈ p.document.root.nodes, n.span.ClearOf p.comments →
        n.textIn p.bare.text.toList = n.text) ∧
      p.bare.document.lines.code = p.document.lines.code ∧
      p.bare.document.lines.commentLines = [] ∧
      (p.bare.document.root = p.document.root ↔
        ∀ n ∈ p.document.root.nodes, n.textIn p.bare.text.toList = n.text) ∧
      (p.document.root.NamesClear p.comments → p.bare.document.root = p.document.root) ∧
      (p.bare.document.root = p.document.root →
        StructuralModel.ofDocument p.bare.document =
          (StructuralModel.ofDocument p.document).map (StructuralModel.withCommentLines 0) ∧
        ∀ config, SameUpToComments (p.document.analyze config)
          (p.bare.document.analyze config)) := by
  have hcode := p.code_document_bare
  have hlines := p.commentLines_document_bare
  have hroot := root_document_bare h
  have hiff : p.bare.document.root = p.document.root ↔
      ∀ n ∈ p.document.root.nodes, n.textIn p.bare.text.toList = n.text := by
    rw [hroot, Cst.Node.reread_eq_self_iff]
  refine ⟨fun herror => ⟨ofTree_eq_document herror, ?_⟩, hroot,
    fun n hn hclear => textIn_text_bare h hn fun _ => hclear, hcode, hlines, hiff,
    fun hnames => hiff.2 fun n hn => textIn_text_bare h hn (hnames n hn), fun hsame => ?_⟩
  · have hbare : p.bare.root.hasError = false :=
      (SyntaxTree.hasError_withoutComments _ p.root).trans herror
    exact ofTree_eq_document hbare
  · have hlanguage : p.bare.document.language = p.document.language := rfl
    have hcount : p.bare.document.lines.commentCount = 0 := congrArg List.length hlines
    refine ⟨?_, Document.analyze_congr hlanguage hsame hcode⟩
    rw [StructuralModel.ofDocument_congr hlanguage hsame hcode, hcount]

/-- A function with a comment beside the operator of an expression. -/
def besideOperator : ParsedText where
  language := .cpp
  text := "int f() \x7b a /*é*/ && b; \x7d"
  root :=
    .onFirstLine "translation_unit" true none 0 26 [
      .onFirstLine "function_definition" true none 0 26 [
        .onFirstLine "primitive_type" true (some "type") 0 3 [],
        .onFirstLine "function_declarator" true (some "declarator") 4 7 [
          .onFirstLine "identifier" true (some "declarator") 4 5 [],
          .onFirstLine "parameter_list" true (some "parameters") 5 7 []],
        .onFirstLine "compound_statement" true (some "body") 8 26 [
          .onFirstLine "expression_statement" true none 10 24 [
            .onFirstLine "binary_expression" true none 10 23 [
              .onFirstLine "identifier" true (some "left") 10 11 [],
              .commentAt 12 18,
              .onFirstLine "&&" false (some "operator") 19 21 [],
              .onFirstLine "identifier" true (some "right") 22 23 []]]]]]

theorem commentsApart_besideOperator : besideOperator.CommentsApart :=
  ⟨by decide +kernel, by decide +kernel⟩

/-- Without its comment `besideOperator` gives the same tree, but no comment line. -/
theorem comments_reach_names_only_beside :
    besideOperator.CommentsApart ∧ besideOperator.comments = [⟨12, 18, 1, 1⟩] ∧
      besideOperator.bare.text = "int f() \x7b a        && b; \x7d" ∧
      besideOperator.bare.document.root = besideOperator.document.root ∧
      besideOperator.bare.document.lines.commentLines = [] ∧
      ∀ config, SameUpToComments (besideOperator.document.analyze config)
        (besideOperator.bare.document.analyze config) := by
  obtain ⟨-, -, -, -, hlines, -, hnames, hreports⟩ :=
    comments_reach_names_only commentsApart_besideOperator
  have hclear : besideOperator.document.root.NamesClear besideOperator.comments := by
    rw [root_document]
    decide +kernel
  have hroot := hnames hclear
  exact ⟨commentsApart_besideOperator, by decide +kernel, by with_unfolding_all rfl, hroot, hlines,
    (hreports hroot).2⟩

/-- A specialisation of a function template, with a comment in its name. -/
def inName : ParsedText where
  language := .cpp
  text := "template<> void f</* a::b */int>() \x7b\x7d"
  root :=
    .onFirstLine "translation_unit" true none 0 37 [
      .onFirstLine "template_declaration" true none 0 37 [
        .onFirstLine "template_parameter_list" true (some "parameters") 8 10 [],
        .onFirstLine "function_definition" true none 11 37 [
          .onFirstLine "primitive_type" true (some "type") 11 15 [],
          .onFirstLine "function_declarator" true (some "declarator") 16 34 [
            .onFirstLine "template_function" true (some "declarator") 16 32 [
              .onFirstLine "identifier" true (some "name") 16 17 [],
              .onFirstLine "template_argument_list" true (some "arguments") 17 32 [
                .commentAt 18 28,
                .onFirstLine "type_descriptor" true none 28 31 [
                  .onFirstLine "primitive_type" true (some "type") 28 31 []]]],
            .onFirstLine "parameter_list" true (some "parameters") 32 34 []],
          .onFirstLine "compound_statement" true (some "body") 35 37 []]]]

/-- The structure tree of `inName`, if the name of the function has a given text. -/
def treeOfName (name : String) : Cst.Node :=
  ⟨.translationUnit, ⟨0, 37, 1, 1⟩, none, none, [
    ⟨.template, ⟨0, 37, 1, 1⟩, none, none, [
      ⟨.other, ⟨8, 10, 1, 1⟩, some .parameters, none, []⟩,
      ⟨.functionDefinition, ⟨11, 37, 1, 1⟩, none, none, [
        ⟨.primitiveType, ⟨11, 15, 1, 1⟩, some .type, some "void", []⟩,
        ⟨.functionDeclarator, ⟨16, 34, 1, 1⟩, some .declarator, none, [
          ⟨.identifier, ⟨16, 32, 1, 1⟩, some .declarator, some name, []⟩,
          ⟨.parameterList, ⟨32, 34, 1, 1⟩, some .parameters, none, []⟩]⟩,
        ⟨.compound, ⟨35, 37, 1, 1⟩, some .body, none, []⟩]⟩]⟩]⟩

/-- The names and sorts of the units of a document. -/
def namesAndKinds (d : Document) : Except NormalizationError (List (String × UnitKind)) :=
  (StructuralModel.ofDocument d).map fun m => m.units.map fun u => (u.name, u.kind)

/-- **A comment in a name reaches the model**: it stays in the name of the unit, and a separator in
the comment makes a method of a function. -/
theorem comment_in_name_reaches_units :
    inName.CommentsApart ∧
      inName.document.root = treeOfName "f</* a::b */int>" ∧
      inName.bare.document.root = treeOfName "f< int>" ∧
      namesAndKinds inName.document = .ok [("f</* a::b */int>", .method)] ∧
      namesAndKinds inName.bare.document = .ok [("f< int>", .function)] := by
  have hroot : inName.document.root = treeOfName "f</* a::b */int>" := by
    rw [root_document]
    with_unfolding_all rfl
  have hbare : inName.bare.document.root = treeOfName "f< int>" := by
    rw [root_document]
    with_unfolding_all rfl
  have hmethod (lines : LineIndex) :
      namesAndKinds ⟨.cpp, treeOfName "f</* a::b */int>", lines⟩ =
        .ok [("f</* a::b */int>", .method)] := by
    with_unfolding_all rfl
  have hfunction (lines : LineIndex) :
      namesAndKinds ⟨.cpp, treeOfName "f< int>", lines⟩ = .ok [("f< int>", .function)] := by
    with_unfolding_all rfl
  refine ⟨⟨by decide +kernel, by decide +kernel⟩, hroot, hbare, ?_, ?_⟩
  · show namesAndKinds ⟨.cpp, inName.document.root, inName.document.lines⟩ = _
    rw [hroot, hmethod]
  · show namesAndKinds ⟨.cpp, inName.bare.document.root, inName.bare.document.lines⟩ = _
    rw [hbare, hfunction]

end ParsedText

end CodeMetrics
