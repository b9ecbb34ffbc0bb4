import CodeMetrics.Analysis
import CodeMetrics.CallChain
import CodeMetrics.CommandLine.Output
import CodeMetrics.CommandLine.Parser
import CodeMetrics.CommandLine.Run
import CodeMetrics.CommandLine.Usage
import CodeMetrics.Config
import CodeMetrics.Config.Loading
import CodeMetrics.Config.Stored
import CodeMetrics.Cst
import CodeMetrics.Cst.OfSyntax
import CodeMetrics.Discovery
import CodeMetrics.Distribution
import CodeMetrics.Document
import CodeMetrics.FileTree
import CodeMetrics.Golden.Directory
import CodeMetrics.Golden.Fixture
import CodeMetrics.Golden.Mismatch
import CodeMetrics.Golden.Suite
import CodeMetrics.Grammar.C
import CodeMetrics.Grammar.Tables
import CodeMetrics.Hundredths
import CodeMetrics.Json.Parser
import CodeMetrics.Json.Printer
import CodeMetrics.Json.Record
import CodeMetrics.Keyed
import CodeMetrics.Language
import CodeMetrics.LineIndex
import CodeMetrics.Main
import CodeMetrics.Metrics
import CodeMetrics.Parsing.Automaton
import CodeMetrics.Parsing.Lexer
import CodeMetrics.Parsing.Machine
import CodeMetrics.Parsing.Stack
import CodeMetrics.Parsing.Tree
import CodeMetrics.Path
import CodeMetrics.Proofs.Golden.Diff
import CodeMetrics.Proofs.Golden.RoundTrip
import CodeMetrics.Proofs.Metrics.Bounds
import CodeMetrics.Proofs.Metrics.Counts
import CodeMetrics.Proofs.Metrics.Options
import CodeMetrics.Proofs.Statement.WellFormed
import CodeMetrics.Proofs.StructuralUnit.Rejection
import CodeMetrics.Report
import CodeMetrics.Report.Stored
import CodeMetrics.Span
import CodeMetrics.Statement.Build
import CodeMetrics.StructuralModel
import CodeMetrics.StructuralUnit.Collect
import CodeMetrics.SyntaxTree
import CodeMetrics.TaskError
import CodeMetrics.Text.Split
import CodeMetrics.Text.Whitespace
import CodeMetrics.Toml.Parser
import CodeMetrics.Total
import CodeMetrics.Vocabulary
import CodeMetrics.Proofs.StructuralUnit.Order
import CodeMetrics.Proofs.Golden.Check
import CodeMetrics.Proofs.Golden.Bless
import CodeMetrics.Proofs.Cst.Conversion
import CodeMetrics.Proofs.Cst.CommentFree
import CodeMetrics.Proofs.Document.CommentFree
import CodeMetrics.Proofs.StructuralUnit.Lambdas
import CodeMetrics.Proofs.Metrics.Wrappers
import CodeMetrics.Proofs.Metrics.Enumeration
import CodeMetrics.Proofs.Metrics.Insertion
import CodeMetrics.Proofs.Statement.Labels
import CodeMetrics.Proofs.Metrics.Nesting
import CodeMetrics.Proofs.CallChain
import CodeMetrics.Proofs.LineIndex
import CodeMetrics.Proofs.StructuralUnit.Qualifiers
import CodeMetrics.Proofs.Hundredths
import CodeMetrics.Proofs.Distribution
import CodeMetrics.Proofs.Cst.Reach
import CodeMetrics.Proofs.Discovery
import CodeMetrics.Proofs.LineIndex.Ranges
import CodeMetrics.Proofs.Document.FirstError
import CodeMetrics.Proofs.StructuralUnit.Scope
