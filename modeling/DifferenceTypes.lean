import DifferenceTypes.CommandLine.Arguments
import DifferenceTypes.CommandLine.Run
import DifferenceTypes.Contract.Dispatch
import DifferenceTypes.Contract.Installation
import DifferenceTypes.Contract.Positional
import DifferenceTypes.Contract.Registry
import DifferenceTypes.Digest.Sha256
import DifferenceTypes.Evaluation.Application
import DifferenceTypes.Evaluation.Call
import DifferenceTypes.Evaluation.Expression
import DifferenceTypes.Evaluation.Frame
import DifferenceTypes.Evaluation.Operation
import DifferenceTypes.Evaluation.Placement
import DifferenceTypes.Evaluation.Statement
import DifferenceTypes.Evaluation.TypeHint
import DifferenceTypes.Files.Access
import DifferenceTypes.Files.Path
import DifferenceTypes.Files.Tree
import DifferenceTypes.Generation.Code
import DifferenceTypes.Generation.Output
import DifferenceTypes.Generation.Splice
import DifferenceTypes.Main
import DifferenceTypes.Number.Binary64
import DifferenceTypes.Number.Shortest
import DifferenceTypes.Object.Access
import DifferenceTypes.Object.Ancestors
import DifferenceTypes.Object.Attribute
import DifferenceTypes.Object.Builtin
import DifferenceTypes.Object.Comparison
import DifferenceTypes.Object.Conversion
import DifferenceTypes.Object.Copy
import DifferenceTypes.Object.Derivation
import DifferenceTypes.Object.Description
import DifferenceTypes.Object.Failure
import DifferenceTypes.Object.Instance
import DifferenceTypes.Object.Library
import DifferenceTypes.Object.Observe
import DifferenceTypes.Object.Operator
import DifferenceTypes.Object.Sequence
import DifferenceTypes.Object.Snapshot
import DifferenceTypes.Object.TypeForm
import DifferenceTypes.Object.Value
import DifferenceTypes.Object.View
import DifferenceTypes.Object.World
import DifferenceTypes.Record.Declaration
import DifferenceTypes.Record.Definition
import DifferenceTypes.Record.Method
import DifferenceTypes.Session.Contract
import DifferenceTypes.Session.Loading
import DifferenceTypes.Session.Step
import DifferenceTypes.Session.Term
import DifferenceTypes.Syntax.Lexer
import DifferenceTypes.Syntax.Number
import DifferenceTypes.Syntax.Parser.Basic
import DifferenceTypes.Syntax.Parser.Expression
import DifferenceTypes.Syntax.Parser.Pattern
import DifferenceTypes.Syntax.Parser.Statement
import DifferenceTypes.Syntax.Position
import DifferenceTypes.Syntax.Printer.Expression
import DifferenceTypes.Syntax.Printer.Literal
import DifferenceTypes.Syntax.Segment
import DifferenceTypes.Syntax.StringLiteral
import DifferenceTypes.Syntax.Token
import DifferenceTypes.Syntax.Tree
import DifferenceTypes.Template.Basic
import DifferenceTypes.Template.Block
import DifferenceTypes.Template.Definition
import DifferenceTypes.Template.Fault
import DifferenceTypes.Template.Field
import DifferenceTypes.Template.Marker
import DifferenceTypes.Template.Scope
import DifferenceTypes.Template.Shape
import DifferenceTypes.Text.Blank
import DifferenceTypes.Text.CharacterName
import DifferenceTypes.Text.CodePoint
import DifferenceTypes.Text.Composition
import DifferenceTypes.Text.Composition.Table
import DifferenceTypes.Text.Identifier
import DifferenceTypes.Text.Lines
import DifferenceTypes.Text.Printable
import DifferenceTypes.Text.Quoted
import DifferenceTypes.Text.Utf8
import DifferenceTypes.Proofs.Text.Utf8
import DifferenceTypes.Proofs.Files.Tree
import DifferenceTypes.Proofs.Template.Reading
import DifferenceTypes.Proofs.Template.LogicalLines
import DifferenceTypes.Proofs.Generation.InjectedImports
import DifferenceTypes.Proofs.Generation.Front
import DifferenceTypes.Proofs.Generation.FrontStatements
import DifferenceTypes.Proofs.Generation.ImportOrder
import DifferenceTypes.Proofs.Evaluation.ImportedNames
import DifferenceTypes.Proofs.Template.MarkedClasses
import DifferenceTypes.Proofs.Template.ScopeNames
import DifferenceTypes.Proofs.Template.GeneratedNames
import DifferenceTypes.Proofs.CommandLine.RunOn
import DifferenceTypes.Proofs.CommandLine.CheckAfterRun
import DifferenceTypes.Proofs.CommandLine.FailedRun
import DifferenceTypes.Proofs.Generation.Unmarked
import DifferenceTypes.Proofs.Generation.Header
import DifferenceTypes.Proofs.Generation.Digest
import DifferenceTypes.Proofs.CommandLine.SkippedRun
import DifferenceTypes.Proofs.CommandLine.History
import DifferenceTypes.Proofs.Syntax.Tokens
import DifferenceTypes.Proofs.Syntax.Quoted
import DifferenceTypes.Proofs.Syntax.Scan
import DifferenceTypes.Proofs.Syntax.Groups
import DifferenceTypes.Proofs.Syntax.Places
import DifferenceTypes.Proofs.Syntax.Lines
import DifferenceTypes.Proofs.Syntax.Primaries
import DifferenceTypes.Proofs.Syntax.Content
import DifferenceTypes.Proofs.Syntax.SimpleStatements
import DifferenceTypes.Proofs.Text.SourceLines
import DifferenceTypes.Proofs.Syntax.SourceText
import DifferenceTypes.Proofs.Object.Course
import DifferenceTypes.Proofs.Object.Operation
import DifferenceTypes.Proofs.Evaluation.Course
import DifferenceTypes.Proofs.Contract.Course
import DifferenceTypes.Proofs.Record.Course
import DifferenceTypes.Proofs.Evaluation.Calls
import DifferenceTypes.Proofs.Record.Declared
import DifferenceTypes.Proofs.Object.Derivation
import DifferenceTypes.Proofs.Object.Arity
import DifferenceTypes.Proofs.Evaluation.ClassBody
import DifferenceTypes.Proofs.Evaluation.Bases
import DifferenceTypes.Proofs.Session.Course
import DifferenceTypes.Proofs.Template.RecordFields
import DifferenceTypes.Proofs.Evaluation.Portable
import DifferenceTypes.Proofs.Template.TypeMeaning
import DifferenceTypes.Proofs.Generation.PositionalBase
import DifferenceTypes.Proofs.Template.PositionalFields
import DifferenceTypes.Proofs.Syntax.ClassOrder
import DifferenceTypes.Proofs.Generation.LineEdits
import DifferenceTypes.Proofs.Template.Failures
import DifferenceTypes.Proofs.CommandLine.Diagnostics
import DifferenceTypes.Proofs.Object.ClassAttributes
import DifferenceTypes.Proofs.Contract.Leaves
import DifferenceTypes.Proofs.Contract.Keys
import DifferenceTypes.Proofs.Contract.Histories
import DifferenceTypes.Proofs.Contract.Coherence
import DifferenceTypes.Proofs.Contract.Installation
import DifferenceTypes.Proofs.Contract.Aliases
import DifferenceTypes.Proofs.Contract.Registrations
import DifferenceTypes.Proofs.Contract.Equality
import DifferenceTypes.Proofs.Text.Blanks
import DifferenceTypes.Proofs.Syntax.Taking
import DifferenceTypes.Proofs.Syntax.ClosedExpressions
import DifferenceTypes.Proofs.Syntax.Grouping
import DifferenceTypes.Proofs.Syntax.TakenStatements
import DifferenceTypes.Proofs.Syntax.DeclaredTypes
import DifferenceTypes.Proofs.Syntax.Spacing
import DifferenceTypes.Proofs.Syntax.Segments
import DifferenceTypes.Proofs.Syntax.Parentheses
import DifferenceTypes.Proofs.Syntax.Parts
import DifferenceTypes.Proofs.Syntax.Brackets
import DifferenceTypes.Proofs.Syntax.WrittenParts
import DifferenceTypes.Proofs.Template.TypeTexts
import DifferenceTypes.Proofs.Syntax.Nesting
import DifferenceTypes.Proofs.Template.MarkedDefinitions
import DifferenceTypes.Proofs.Template.Directives
import DifferenceTypes.Proofs.Generation.RepresentationTexts
import DifferenceTypes.Proofs.Generation.Assembly
import DifferenceTypes.Proofs.Template.Shapes
import DifferenceTypes.Proofs.Syntax.Relocation
import DifferenceTypes.Proofs.Template.RelocatedBlocks
import DifferenceTypes.Proofs.Template.Passages
import DifferenceTypes.Proofs.Generation.Rearrangement
import DifferenceTypes.Proofs.Generation.CodeLines
import DifferenceTypes.Proofs.Contract.FieldCounts
