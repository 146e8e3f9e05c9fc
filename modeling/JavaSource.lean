import JavaSource.AnnotationExpr
import JavaSource.ClassDecl
import JavaSource.Comment
import JavaSource.CompilationUnit
import JavaSource.Decimal.Shortest
import JavaSource.Draft
import JavaSource.Expr
import JavaSource.Identifier
import JavaSource.Imports
import JavaSource.JavaType
import JavaSource.Log.Event
import JavaSource.Log.Filter
import JavaSource.Log.Line
import JavaSource.Log.Logged
import JavaSource.Method
import JavaSource.NodeError
import JavaSource.Outline
import JavaSource.Proofs.ArrayTypes
import JavaSource.Proofs.Built
import JavaSource.Proofs.CommentLayout
import JavaSource.Proofs.CommentMarks
import JavaSource.Proofs.Declarations
import JavaSource.Proofs.Dispatch
import JavaSource.Proofs.EveryDepth
import JavaSource.Proofs.FewestLines
import JavaSource.Proofs.FilterChoice
import JavaSource.Proofs.FirstOccurrences
import JavaSource.Proofs.ImportLog
import JavaSource.Proofs.ImportPass
import JavaSource.Proofs.ImportRuns
import JavaSource.Proofs.ImportText
import JavaSource.Proofs.Induction
import JavaSource.Proofs.Occurrence
import JavaSource.Proofs.Outcome
import JavaSource.Proofs.OverrideMark
import JavaSource.Proofs.Preorder
import JavaSource.Proofs.Rearrangement
import JavaSource.Proofs.Recording
import JavaSource.Proofs.ReferenceOrder
import JavaSource.Proofs.Refusals
import JavaSource.Proofs.ReportedRefusals
import JavaSource.Proofs.SameImports
import JavaSource.Proofs.Sameness
import JavaSource.Proofs.SharedNames
import JavaSource.Proofs.SourceFiles
import JavaSource.Proofs.Stanzas
import JavaSource.Proofs.Superclasses
import JavaSource.Proofs.ThrownExceptions
import JavaSource.Proofs.TypeOrder
import JavaSource.Proofs.WellFormed
import JavaSource.Proofs.Words
import JavaSource.Proofs.Wrapping
import JavaSource.Reference
import JavaSource.Reference.Hierarchy
import JavaSource.Scope
import JavaSource.Settings
import JavaSource.Settings.File
import JavaSource.Skeleton
import JavaSource.Stmt
import JavaSource.Text.Blank
import JavaSource.Text.Letter
import JavaSource.Text.Numeral
import JavaSource.Text.Quoted
import JavaSource.Text.Ranges
import JavaSource.Toml.Document
import JavaSource.Toml.Number
import JavaSource.Toml.Reader
import JavaSource.Toml.Section
import JavaSource.Toml.Text
import JavaSource.Toml.Value
import JavaSource.Traversal
import JavaSource.Visitor
