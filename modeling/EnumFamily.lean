import EnumFamily.Analysis
import EnumFamily.Cluster
import EnumFamily.CommandLine
import EnumFamily.CommandLine.Options
import EnumFamily.DenyList
import EnumFamily.Diagnostic
import EnumFamily.Domain
import EnumFamily.Domain.Direction
import EnumFamily.Domain.Joining
import EnumFamily.Domain.Punycode
import EnumFamily.Domain.Spelling
import EnumFamily.Editor.ClientOptions
import EnumFamily.Editor.Marker
import EnumFamily.Editor.Session
import EnumFamily.Event
import EnumFamily.Fault
import EnumFamily.FilePath
import EnumFamily.FileTree
import EnumFamily.FileTree.Sources
import EnumFamily.Graph
import EnumFamily.Hierarchy
import EnumFamily.IgnorePattern
import EnumFamily.Json
import EnumFamily.Json.Reader
import EnumFamily.Location
import EnumFamily.Main
import EnumFamily.Manifest
import EnumFamily.OutputPath
import EnumFamily.Package
import EnumFamily.Plan
import EnumFamily.Reading
import EnumFamily.Rule
import EnumFamily.Rule.Guide
import EnumFamily.Settings
import EnumFamily.Source.ExpressionReader
import EnumFamily.Source.Extract
import EnumFamily.Source.Grammar
import EnumFamily.Source.Item
import EnumFamily.Source.ItemReader
import EnumFamily.Source.Lexeme
import EnumFamily.Source.PathReader
import EnumFamily.Source.PatternReader
import EnumFamily.Source.Phrase
import EnumFamily.Source.Reader
import EnumFamily.Source.StatementReader
import EnumFamily.Source.Tree
import EnumFamily.Source.TypeReader
import EnumFamily.SymbolPath
import EnumFamily.Text.Blank
import EnumFamily.Text.Composition
import EnumFamily.Text.Identifier
import EnumFamily.Text.Mark
import EnumFamily.Text.Quoted
import EnumFamily.Text.Ranges
import EnumFamily.Text.Search
import EnumFamily.Toml
import EnumFamily.Toml.Reader
import EnumFamily.TypeUnit
import EnumFamily.Uri
import EnumFamily.Uri.Address
import EnumFamily.Uri.Host
import EnumFamily.Uri.Path
import EnumFamily.Uri.Percent
import EnumFamily.Workspace
import EnumFamily.Workspace.Report
import EnumFamily.Proofs.Adjusting
import EnumFamily.Proofs.Ancestry
import EnumFamily.Proofs.Canonical
import EnumFamily.Proofs.Descent
import EnumFamily.Proofs.Families
import EnumFamily.Proofs.FaultIsolation
import EnumFamily.Proofs.Gathering
import EnumFamily.Proofs.ListOrder
import EnumFamily.Proofs.Mending
import EnumFamily.Proofs.Reachability
import EnumFamily.Proofs.Removal
import EnumFamily.Proofs.ReportOrder
import EnumFamily.Proofs.Resolution
import EnumFamily.Proofs.TargetIsolation
import EnumFamily.Proofs.Tree
import EnumFamily.Proofs.Ownership
import EnumFamily.Proofs.Publishing
import EnumFamily.Proofs.Interleaving
import EnumFamily.Proofs.Clustering
import EnumFamily.Proofs.Extracting
import EnumFamily.Proofs.Merging
import EnumFamily.Proofs.Relocation
import EnumFamily.Proofs.PathSegments
import EnumFamily.Proofs.PathAgreement
import EnumFamily.Proofs.QualifiedNames
import EnumFamily.Proofs.Messages
import EnumFamily.Proofs.Confinement
import EnumFamily.Proofs.JsonGrammar
import EnumFamily.Proofs.JsonReports
import EnumFamily.Proofs.Namespaces
import EnumFamily.Proofs.MergeLaws
import EnumFamily.Proofs.Reordering
import EnumFamily.Proofs.SourceListing
import EnumFamily.Proofs.RelativePaths
import EnumFamily.Proofs.Ancestors
import EnumFamily.Proofs.ClientRoots
import EnumFamily.Proofs.Placement
import EnumFamily.Proofs.Members
import EnumFamily.Proofs.TomlTables
import EnumFamily.Proofs.TomlLines
import EnumFamily.Proofs.ManifestNames
