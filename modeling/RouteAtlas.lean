import RouteAtlas.Build
import RouteAtlas.BuildError
import RouteAtlas.BuildOptions
import RouteAtlas.Classification
import RouteAtlas.Classification.Memo
import RouteAtlas.Contract
import RouteAtlas.Declaration.Basic
import RouteAtlas.Declaration.Reader
import RouteAtlas.Declaration.Writer
import RouteAtlas.Delivery
import RouteAtlas.Diagnostic
import RouteAtlas.Emission
import RouteAtlas.Hook
import RouteAtlas.Host.Arguments
import RouteAtlas.Host.Command
import RouteAtlas.Host.Config
import RouteAtlas.Host.Configure
import RouteAtlas.Host.Desk
import RouteAtlas.Host.Failure
import RouteAtlas.Host.FileTree
import RouteAtlas.Host.Generate
import RouteAtlas.Host.Inspect
import RouteAtlas.Injection.Dispatch
import RouteAtlas.Injection.Statement
import RouteAtlas.Json.Decode
import RouteAtlas.Json.Doc
import RouteAtlas.Json.Numeral
import RouteAtlas.Json.Token
import RouteAtlas.Json.Value
import RouteAtlas.Main
import RouteAtlas.Proofs.Build.CleanRun
import RouteAtlas.Proofs.Delivery.Deferral
import RouteAtlas.Proofs.Hook.Order
import RouteAtlas.Proofs.Injection.Agreement
import RouteAtlas.Proofs.Sink.Digests
import RouteAtlas.QualifiedName
import RouteAtlas.Round.Hooks
import RouteAtlas.Round.Injectors
import RouteAtlas.Round.Report
import RouteAtlas.Round.Routes
import RouteAtlas.Route.Document
import RouteAtlas.Route.Extract
import RouteAtlas.Route.Kind
import RouteAtlas.Route.Record
import RouteAtlas.Route.Table
import RouteAtlas.Route.Validation
import RouteAtlas.Sink
import RouteAtlas.SortedMap
import RouteAtlas.Source.Basic
import RouteAtlas.Source.Java
import RouteAtlas.Source.Kotlin
import RouteAtlas.Source.Render
import RouteAtlas.SymbolTable.Ancestors
import RouteAtlas.SymbolTable.Basic
import RouteAtlas.SymbolTable.Search
import RouteAtlas.Text.CaseTable
import RouteAtlas.Text.Decimal
import RouteAtlas.Text.Digest
import RouteAtlas.Text.Literal
import RouteAtlas.Text.Ranges
import RouteAtlas.Text.Similarity
import RouteAtlas.Toml.Document
import RouteAtlas.Toml.Quoted
import RouteAtlas.Toml.Scalar
import RouteAtlas.Toml.Scanner
import RouteAtlas.Toml.Table
import RouteAtlas.Toml.Value
import RouteAtlas.Unit.Basic
import RouteAtlas.Unit.Key
import RouteAtlas.ValueKind
import RouteAtlas.Proofs.Round.Again
import RouteAtlas.Proofs.Build.Reachable
import RouteAtlas.Proofs.Build.Repeat
import RouteAtlas.Proofs.Build.Retry
import RouteAtlas.Proofs.Delivery.Library
import RouteAtlas.Proofs.Delivery.PutOff
import RouteAtlas.Proofs.Build.Emitted
import RouteAtlas.Proofs.Unit.Views
import RouteAtlas.Proofs.Round.Siblings
import RouteAtlas.Proofs.Hook.FirstRound
import RouteAtlas.Proofs.Build.Documents
import RouteAtlas.Proofs.Route.Clashes
import RouteAtlas.Proofs.Unit.Providers
import RouteAtlas.Proofs.Json.Spelling
import RouteAtlas.Proofs.Json.Reading
import RouteAtlas.Proofs.Json.Writing
import RouteAtlas.Proofs.Json.Record
import RouteAtlas.Proofs.Declaration.Changes
import RouteAtlas.Proofs.Declaration.Written
import RouteAtlas.Proofs.Declaration.RoundTrip
import RouteAtlas.Proofs.Classification.Nearest
import RouteAtlas.Proofs.Build.Unnamed
import RouteAtlas.Proofs.Source.Tables
import RouteAtlas.Proofs.Source.Injectors
import RouteAtlas.Proofs.Classification.Memo
import RouteAtlas.Proofs.Unit.Lookup
import RouteAtlas.Proofs.Source.Imports
import RouteAtlas.Proofs.Hook.Representation
import RouteAtlas.Proofs.Injection.Dispatch
import RouteAtlas.Proofs.Round.Wired
import RouteAtlas.Proofs.Source.Mentions
import RouteAtlas.Proofs.Source.BuiltIns
import RouteAtlas.Proofs.Route.Entries
import RouteAtlas.Proofs.Sink.Once
import RouteAtlas.Proofs.Diagnostic
import RouteAtlas.Proofs.Sink.Isolation
import RouteAtlas.Proofs.Round.Accounts
import RouteAtlas.Proofs.Route.Rules
import RouteAtlas.Proofs.SymbolTable.Ordered
import RouteAtlas.Proofs.SymbolTable.Suggestions
import RouteAtlas.Proofs.SymbolTable.Nearest
import RouteAtlas.Proofs.Text.Literal
import RouteAtlas.Proofs.Source.Types
import RouteAtlas.Proofs.Host.Override
import RouteAtlas.Proofs.Text.LowerCase
import RouteAtlas.Proofs.SymbolTable.Search
