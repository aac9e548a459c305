import ShaderAssembly.CommandLine.Arguments
import ShaderAssembly.CommandLine.Run
import ShaderAssembly.CommandLine.Session
import ShaderAssembly.Config.Basic
import ShaderAssembly.Config.Error
import ShaderAssembly.Config.File
import ShaderAssembly.Config.Resolver
import ShaderAssembly.Decimal.Binary64
import ShaderAssembly.Decimal.Notation
import ShaderAssembly.Decimal.Shortest
import ShaderAssembly.FileTree.Basic
import ShaderAssembly.FileTree.Change
import ShaderAssembly.FileTree.Error
import ShaderAssembly.FileTree.Path
import ShaderAssembly.Glyph.Basic
import ShaderAssembly.Glyph.Order
import ShaderAssembly.Lookup.FileSearch
import ShaderAssembly.Lookup.Resolvers
import ShaderAssembly.Main
import ShaderAssembly.Manifest.Apply
import ShaderAssembly.Manifest.Basic
import ShaderAssembly.Manifest.Library
import ShaderAssembly.Manifest.Read
import ShaderAssembly.Pipeline.Basic
import ShaderAssembly.Pipeline.Override
import ShaderAssembly.Proofs.CommandLine.Output
import ShaderAssembly.Proofs.CommandLine.Overrides
import ShaderAssembly.Proofs.CommandLine.Session
import ShaderAssembly.Proofs.Config.Created
import ShaderAssembly.Proofs.Config.Loading
import ShaderAssembly.Proofs.Decimal.Digits
import ShaderAssembly.Proofs.Decimal.Layouts
import ShaderAssembly.Proofs.Decimal.Magnitude
import ShaderAssembly.Proofs.FileTree.Alike
import ShaderAssembly.Proofs.FileTree.Change
import ShaderAssembly.Proofs.FileTree.Growth
import ShaderAssembly.Proofs.FileTree.Names
import ShaderAssembly.Proofs.FileTree.Proper
import ShaderAssembly.Proofs.FileTree.Walk
import ShaderAssembly.Proofs.Glyph.Keys
import ShaderAssembly.Proofs.Glyph.Sets
import ShaderAssembly.Proofs.Library.Acceptance
import ShaderAssembly.Proofs.Library.Build
import ShaderAssembly.Proofs.Library.Cycle
import ShaderAssembly.Proofs.Library.Directories
import ShaderAssembly.Proofs.Library.Extensions
import ShaderAssembly.Proofs.Library.Graph
import ShaderAssembly.Proofs.Library.KeyOrder
import ShaderAssembly.Proofs.Library.Layout
import ShaderAssembly.Proofs.Library.Nesting
import ShaderAssembly.Proofs.Library.Opening
import ShaderAssembly.Proofs.Library.Precedence
import ShaderAssembly.Proofs.Library.ReportedCycle
import ShaderAssembly.Proofs.Library.Routes
import ShaderAssembly.Proofs.Library.Sources
import ShaderAssembly.Proofs.Library.Tree
import ShaderAssembly.Proofs.Library.Walk
import ShaderAssembly.Proofs.Lists.FirstOccurrences
import ShaderAssembly.Proofs.Lookup.Beside
import ShaderAssembly.Proofs.Lookup.Choice
import ShaderAssembly.Proofs.Lookup.SearchOrder
import ShaderAssembly.Proofs.Manifest.CutOff
import ShaderAssembly.Proofs.Manifest.KeyOrder
import ShaderAssembly.Proofs.Manifest.MacroTexts
import ShaderAssembly.Proofs.Manifest.Opening
import ShaderAssembly.Proofs.Manifest.Sections
import ShaderAssembly.Proofs.Pipeline.Definitions
import ShaderAssembly.Proofs.Pipeline.Shader
import ShaderAssembly.Proofs.Pipeline.SourceFiles
import ShaderAssembly.Proofs.Pipeline.Stages
import ShaderAssembly.Proofs.Resource.Answers
import ShaderAssembly.Proofs.Resource.Labels
import ShaderAssembly.Proofs.Resource.Loading
import ShaderAssembly.Proofs.Resource.Registered
import ShaderAssembly.Proofs.Shader.Ends
import ShaderAssembly.Proofs.Shader.Extensions
import ShaderAssembly.Proofs.Shader.Header
import ShaderAssembly.Proofs.Shader.History
import ShaderAssembly.Proofs.Shader.MacroStatus
import ShaderAssembly.Proofs.Shader.Places
import ShaderAssembly.Proofs.Shader.Reachable
import ShaderAssembly.Proofs.Shader.Remembered
import ShaderAssembly.Proofs.Shader.Resolution
import ShaderAssembly.Proofs.Shader.Transcript
import ShaderAssembly.Proofs.Text.ByteOrder
import ShaderAssembly.Proofs.Text.Trimmed
import ShaderAssembly.Proofs.Toml.Keys
import ShaderAssembly.Proofs.Watch.Coverage
import ShaderAssembly.Proofs.Watch.Reports
import ShaderAssembly.Proofs.Watch.Spacing
import ShaderAssembly.Proofs.Watch.Watched
import ShaderAssembly.Resource.Bundled
import ShaderAssembly.Resource.Directory
import ShaderAssembly.Resource.Table
import ShaderAssembly.Shader.Assembly
import ShaderAssembly.Shader.Basic
import ShaderAssembly.Shader.Block
import ShaderAssembly.Shader.Extension
import ShaderAssembly.Shader.Macro
import ShaderAssembly.Shader.Prelude
import ShaderAssembly.Shader.Workbench
import ShaderAssembly.Text.Blank
import ShaderAssembly.Text.Lines
import ShaderAssembly.Text.Quoted
import ShaderAssembly.Text.Shown
import ShaderAssembly.Text.Split
import ShaderAssembly.Toml.Datetime
import ShaderAssembly.Toml.Document
import ShaderAssembly.Toml.Fields
import ShaderAssembly.Toml.Number
import ShaderAssembly.Toml.Scanner
import ShaderAssembly.Toml.Statement
import ShaderAssembly.Toml.Table
import ShaderAssembly.Toml.Text
import ShaderAssembly.Toml.Value
import ShaderAssembly.Watch.Debounce
import ShaderAssembly.Watch.Directories
import ShaderAssembly.Watch.Notice
import ShaderAssembly.Watch.Operation
