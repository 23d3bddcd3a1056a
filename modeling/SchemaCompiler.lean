import SchemaCompiler.Error.Sharing
import SchemaCompiler.Main
import SchemaCompiler.Proofs.Args
import SchemaCompiler.Proofs.DefinitionLine
import SchemaCompiler.Proofs.Canonical
import SchemaCompiler.Proofs.Results
import SchemaCompiler.Proofs.RoundTrip.Table
import SchemaCompiler.Proofs.RoundTrip.Function
import SchemaCompiler.Proofs.RoundTrip.Object
import SchemaCompiler.Proofs.Expansion
import SchemaCompiler.Proofs.Influence
import SchemaCompiler.Proofs.OnePass
import SchemaCompiler.Proofs.Effects
import SchemaCompiler.Proofs.Project
import SchemaCompiler.Proofs.Requests
import SchemaCompiler.Proofs.Export
import SchemaCompiler.Proofs.Compilation
import SchemaCompiler.Proofs.Pieces
import SchemaCompiler.Proofs.Layout
import SchemaCompiler.Proofs.Grammar.File
import SchemaCompiler.Proofs.FileTree
import SchemaCompiler.Proofs.ScriptBook
import SchemaCompiler.Proofs.SentActions
import SchemaCompiler.Proofs.WrittenFiles
import SchemaCompiler.Proofs.Scripts
import SchemaCompiler.Proofs.SharedErrors
import SchemaCompiler.Proofs.Delimited
import SchemaCompiler.Proofs.StatementText
import SchemaCompiler.Proofs.TableScript
import SchemaCompiler.Proofs.Declarations
import SchemaCompiler.Proofs.Invariants
import SchemaCompiler.Proofs.Names
import SchemaCompiler.Proofs.Substitution
import SchemaCompiler.Proofs.RepeatedExpansion
import SchemaCompiler.Proofs.RoundTrip.Configuration
import SchemaCompiler.Proofs.DatabaseCreation
import SchemaCompiler.Proofs.FailureCategories
import SchemaCompiler.Proofs.Failures
import SchemaCompiler.Proofs.LineParts
import SchemaCompiler.Proofs.ColumnSpellings
import SchemaCompiler.Proofs.FirstLine
import SchemaCompiler.Proofs.Templates
import SchemaCompiler.Proofs.FunctionScript
import SchemaCompiler.Proofs.ReturnClause
import SchemaCompiler.Proofs.StatementNames
import SchemaCompiler.Proofs.EmptyArguments
import SchemaCompiler.Proofs.RoundTrip.DatabaseRequest
import SchemaCompiler.Proofs.ConnectionUrl
import SchemaCompiler.Proofs.LineEnds
import SchemaCompiler.Proofs.PropertyLines
import SchemaCompiler.Proofs.Discovery
import SchemaCompiler.Proofs.DefinitionFiles
import SchemaCompiler.Proofs.DocumentTables
import SchemaCompiler.Proofs.Grid
