import BoundaryLint.Config.Error
import BoundaryLint.Config.File
import BoundaryLint.Config.Schema
import BoundaryLint.Diagnostic.Basic
import BoundaryLint.Diagnostic.Collected
import BoundaryLint.Glob.Basic
import BoundaryLint.Glob.Error
import BoundaryLint.Glob.Parser
import BoundaryLint.Glob.Set
import BoundaryLint.Main
import BoundaryLint.Number.Binary64
import BoundaryLint.Number.Fixed
import BoundaryLint.Number.Integer
import BoundaryLint.Number.Rounding
import BoundaryLint.Number.Shortest
import BoundaryLint.Project.Collect
import BoundaryLint.Project.Command
import BoundaryLint.Project.FileTree
import BoundaryLint.Project.Lint
import BoundaryLint.Project.Path
import BoundaryLint.Proofs.ActiveEntries
import BoundaryLint.Proofs.Ancestry
import BoundaryLint.Proofs.Checked
import BoundaryLint.Proofs.CollectedFiles
import BoundaryLint.Proofs.CollectedReports
import BoundaryLint.Proofs.CoveredDirectories
import BoundaryLint.Proofs.FaultIsolation
import BoundaryLint.Proofs.GlobAcceptance
import BoundaryLint.Proofs.GlobGrammar
import BoundaryLint.Proofs.GlobLanguage
import BoundaryLint.Proofs.Lifecycle
import BoundaryLint.Proofs.LoadedConfig
import BoundaryLint.Proofs.MatchedChains
import BoundaryLint.Proofs.Pruning
import BoundaryLint.Proofs.RuleReports
import BoundaryLint.Proofs.RunResult
import BoundaryLint.Proofs.Schedule
import BoundaryLint.Proofs.SelectorLayout
import BoundaryLint.Proofs.SelectorRoundTrip
import BoundaryLint.Proofs.StableSort
import BoundaryLint.Proofs.TaskOutcomes
import BoundaryLint.Proofs.Verdict
import BoundaryLint.Proofs.WellFormedConfig
import BoundaryLint.Regex.Basic
import BoundaryLint.Regex.Charset
import BoundaryLint.Regex.Error
import BoundaryLint.Regex.Flags
import BoundaryLint.Regex.Match
import BoundaryLint.Regex.Parser
import BoundaryLint.Regex.Token
import BoundaryLint.Regex.Width
import BoundaryLint.Report.Basic
import BoundaryLint.Report.Format
import BoundaryLint.Report.Json
import BoundaryLint.Rule.Basic
import BoundaryLint.Rule.FileOpen
import BoundaryLint.Rule.LocalStorage
import BoundaryLint.Rule.NavigationState
import BoundaryLint.Rule.PathSeparator
import BoundaryLint.Rule.PlatformCheck
import BoundaryLint.Rule.Registry
import BoundaryLint.Rule.RestrictedImports
import BoundaryLint.Rule.RestrictedSyntax
import BoundaryLint.Rule.SourceAuth
import BoundaryLint.Run.Basic
import BoundaryLint.Run.Clock
import BoundaryLint.Run.Inspection
import BoundaryLint.Run.Log
import BoundaryLint.Run.Phase
import BoundaryLint.Scope.Resolver
import BoundaryLint.Selector.Basic
import BoundaryLint.Selector.Error
import BoundaryLint.Selector.Kind
import BoundaryLint.Selector.Match
import BoundaryLint.Selector.Parser
import BoundaryLint.Text.Base64
import BoundaryLint.Text.Blank
import BoundaryLint.Text.Casing
import BoundaryLint.Text.CharName
import BoundaryLint.Text.Identifier
import BoundaryLint.Text.Letter
import BoundaryLint.Text.Lines
import BoundaryLint.Text.Lower
import BoundaryLint.Text.Printable
import BoundaryLint.Text.Quoted
import BoundaryLint.Text.Ranges
import BoundaryLint.Text.Search
import BoundaryLint.Text.Surrogate
import BoundaryLint.Text.Utf8
import BoundaryLint.Tree.Access
import BoundaryLint.Tree.Kind
import BoundaryLint.Tree.Listing
import BoundaryLint.Tree.Node
import BoundaryLint.Tree.Rows
import BoundaryLint.Tree.Source
import BoundaryLint.Tree.Traversal
import BoundaryLint.Value.Basic
import BoundaryLint.Value.Printer
import BoundaryLint.Value.Timestamp
import BoundaryLint.Yaml.Cursor
import BoundaryLint.Yaml.Error
import BoundaryLint.Yaml.Node.Basic
import BoundaryLint.Yaml.Node.Check
import BoundaryLint.Yaml.Node.Parser
import BoundaryLint.Yaml.Node.Value
import BoundaryLint.Yaml.Number
import BoundaryLint.Yaml.Property
import BoundaryLint.Yaml.Scalar.Block
import BoundaryLint.Yaml.Scalar.Plain
import BoundaryLint.Yaml.Scalar.Quoted
import BoundaryLint.Yaml.Scalar.Value
import BoundaryLint.Yaml.Tag
import BoundaryLint.Yaml.Timestamp
import BoundaryLint.Yaml.Token.Basic
import BoundaryLint.Yaml.Token.Lexer
import BoundaryLint.Yaml.Value
import BoundaryLint.Proofs.Preflight
import BoundaryLint.Proofs.NodeNumbers
import BoundaryLint.Proofs.IrregularData
import BoundaryLint.Proofs.IrregularDocuments
import BoundaryLint.Proofs.LoadOutcome
import BoundaryLint.Proofs.GlobClasses
import BoundaryLint.Proofs.SharedResults
import BoundaryLint.Proofs.BraceAlternatives
import BoundaryLint.Proofs.SlashCount
import BoundaryLint.Proofs.JoinedSelectors
import BoundaryLint.Proofs.StateWrites
import BoundaryLint.Proofs.SubjectKinds
import BoundaryLint.Proofs.PatternModes
import BoundaryLint.Proofs.PatternEnds
import BoundaryLint.Proofs.Submissions
import BoundaryLint.Proofs.DecodedText
import BoundaryLint.Proofs.Positions
import BoundaryLint.Proofs.DocumentOrder
import BoundaryLint.Proofs.NestedConditions
import BoundaryLint.Proofs.PlusChains
import BoundaryLint.Proofs.BannedDeclarations
import BoundaryLint.Proofs.TargetUnion
import BoundaryLint.Proofs.ToolRecords
import BoundaryLint.Proofs.OrdinaryDocuments
import BoundaryLint.Proofs.UniqueKeys
import BoundaryLint.Proofs.Traversals
import BoundaryLint.Proofs.FileExtensions
import BoundaryLint.Proofs.RegexLanguage
