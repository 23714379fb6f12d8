import TreeLint.Ascending
import TreeLint.Binary64
import TreeLint.CharSet
import TreeLint.Check.Catalogue
import TreeLint.Check.DirectoryStructure
import TreeLint.Check.FileContent
import TreeLint.Check.ForbiddenImport
import TreeLint.Check.Layers
import TreeLint.Check.PublicApi
import TreeLint.Check.Relationship
import TreeLint.Check.Scope
import TreeLint.CommandLine.Arguments
import TreeLint.CommandLine.Output
import TreeLint.CommandLine.Reply
import TreeLint.Config.Chain
import TreeLint.Config.Document
import TreeLint.Config.Effective
import TreeLint.Config.Error
import TreeLint.Config.Load
import TreeLint.Config.Merged
import TreeLint.Config.Preset
import TreeLint.Disk
import TreeLint.Explanations
import TreeLint.FileView
import TreeLint.Glob
import TreeLint.HostPath
import TreeLint.IgnoreSet
import TreeLint.Import.Edge
import TreeLint.Import.Reader
import TreeLint.Import.Resolve
import TreeLint.Import.Statement
import TreeLint.Json.Print
import TreeLint.Json.Read
import TreeLint.Json.Text
import TreeLint.Line
import TreeLint.Main
import TreeLint.Path
import TreeLint.Pattern
import TreeLint.Regex.Basic
import TreeLint.Regex.Footprint
import TreeLint.Regex.Layout
import TreeLint.Regex.Parser
import TreeLint.Regex.Program
import TreeLint.Regex.Search
import TreeLint.Rule.Compile
import TreeLint.Rule.Error
import TreeLint.Rule.Problem
import TreeLint.Rule.Spec
import TreeLint.Run.Outcome
import TreeLint.Run.Report
import TreeLint.Severity
import TreeLint.Suffixes
import TreeLint.Template
import TreeLint.Toml.Read
import TreeLint.Toml.Scalar
import TreeLint.Toml.Table
import TreeLint.Tree
import TreeLint.Unicode.Age
import TreeLint.Unicode.Binary
import TreeLint.Unicode.Breaks
import TreeLint.Unicode.Category
import TreeLint.Unicode.Classes
import TreeLint.Unicode.Folding
import TreeLint.Unicode.Latest
import TreeLint.Unicode.Property
import TreeLint.Unicode.Quoted
import TreeLint.Unicode.Script
import TreeLint.Unicode.Utf8
import TreeLint.Value
import TreeLint.Value.Decode
import TreeLint.Violation
import TreeLint.Walk
import TreeLint.Proofs.RelativePath
import TreeLint.Proofs.PatternMeaning
import TreeLint.Proofs.Resolution
import TreeLint.Proofs.Results
import TreeLint.Proofs.Load
import TreeLint.Proofs.Selection
import TreeLint.Proofs.Cycle
import TreeLint.Proofs.DiskPaths
import TreeLint.Proofs.Merged
import TreeLint.Proofs.Placed
import TreeLint.Proofs.Precedence
import TreeLint.Proofs.ModuleRoots
import TreeLint.Proofs.Exclusion
import TreeLint.Proofs.Findings
import TreeLint.Proofs.Report
import TreeLint.Proofs.Run
import TreeLint.Proofs.Edit
import TreeLint.Proofs.Validation
import TreeLint.Proofs.Discovery
import TreeLint.Proofs.Compile
import TreeLint.Proofs.Layers
import TreeLint.Proofs.Attribution
import TreeLint.Proofs.RuleErrors
import TreeLint.Proofs.RuleIds
import TreeLint.Proofs.Finds
import TreeLint.Proofs.SourceLines
import TreeLint.Proofs.PublicApi
import TreeLint.Proofs.StatementReading
import TreeLint.Proofs.Extraction
import TreeLint.Proofs.IgnoreEntries
import TreeLint.Proofs.Template
import TreeLint.Proofs.SelectedFiles
import TreeLint.Proofs.Relationship
import TreeLint.Proofs.ForbiddenImport
import TreeLint.Proofs.HostPlace
import TreeLint.Proofs.Listing
import TreeLint.Proofs.Normalization
import TreeLint.Proofs.Segments
import TreeLint.Proofs.Values
import TreeLint.Proofs.Documents
import TreeLint.Proofs.OneLine
import TreeLint.Proofs.CompactOutput
