import SfcBundler.Build.Hooks
import SfcBundler.Build.Host
import SfcBundler.Build.Options
import SfcBundler.Command.Arguments
import SfcBundler.Command.Config
import SfcBundler.Command.Execution
import SfcBundler.Command.Glob
import SfcBundler.Command.Report
import SfcBundler.Command.Run
import SfcBundler.Component.Compiled
import SfcBundler.Component.EntryModule
import SfcBundler.Component.Identity
import SfcBundler.Component.Part
import SfcBundler.Digest.Sha256
import SfcBundler.Engine.Bridge
import SfcBundler.Engine.Cache
import SfcBundler.Engine.Exchange
import SfcBundler.Engine.Failure
import SfcBundler.Engine.Instance
import SfcBundler.Engine.Pool
import SfcBundler.Engine.Protocol
import SfcBundler.Engine.Runtime
import SfcBundler.Engine.Startup
import SfcBundler.Files.Access
import SfcBundler.Files.Failure
import SfcBundler.Files.Tree
import SfcBundler.Guest.Compiler
import SfcBundler.Guest.Marshal
import SfcBundler.Guest.Runtime
import SfcBundler.Guest.Scope
import SfcBundler.Guest.Script
import SfcBundler.Json.Basic
import SfcBundler.Json.Comments
import SfcBundler.Json.Numeral
import SfcBundler.Json.Printer
import SfcBundler.Json.Reader
import SfcBundler.Json.Shape
import SfcBundler.Loader
import SfcBundler.Main
import SfcBundler.Message
import SfcBundler.Number.Binary64
import SfcBundler.Number.Shortest
import SfcBundler.Path
import SfcBundler.Plugin.Alias
import SfcBundler.Plugin.Chain
import SfcBundler.Plugin.Compiler
import SfcBundler.Plugin.Components
import SfcBundler.Plugin.CopyFiles
import SfcBundler.Plugin.Environment
import SfcBundler.Plugin.Failure
import SfcBundler.Plugin.Processors
import SfcBundler.Plugin.Setup
import SfcBundler.Plugin.State
import SfcBundler.Plugin.StyleSheets
import SfcBundler.Scan.Comments
import SfcBundler.Scan.Imports
import SfcBundler.Text.Base64
import SfcBundler.Text.Character
import SfcBundler.Text.CombiningRanges
import SfcBundler.Text.Cut
import SfcBundler.Text.HiddenRanges
import SfcBundler.Text.Numeral
import SfcBundler.Text.Quoted
import SfcBundler.Text.Utf8
import SfcBundler.Text.WordRanges
import SfcBundler.Proofs.Scan.Comments
import SfcBundler.Proofs.Scan.Lines
import SfcBundler.Proofs.Scan.Pieces
import SfcBundler.Proofs.Component.EntryImports
import SfcBundler.Proofs.Walk.Invariant
import SfcBundler.Proofs.Walk.Account
import SfcBundler.Proofs.Plugin.Site
import SfcBundler.Proofs.Plugin.Loads
import SfcBundler.Proofs.Plugin.Carried
import SfcBundler.Proofs.Plugin.Walk
import SfcBundler.Proofs.Plugin.Union
import SfcBundler.Proofs.Path.Canonical
import SfcBundler.Proofs.Component.PartAddress
import SfcBundler.Proofs.Plugin.Places
import SfcBundler.Proofs.Plugin.Parts
import SfcBundler.Proofs.Walk.Termination
import SfcBundler.Proofs.Plugin.Memory
import SfcBundler.Proofs.Plugin.Freshness
import SfcBundler.Proofs.Engine.Flow
import SfcBundler.Proofs.Engine.Replies
import SfcBundler.Proofs.Engine.Exchange
import SfcBundler.Proofs.Json.Literal
import SfcBundler.Proofs.Path.Placed
import SfcBundler.Proofs.Component.PlacedPart
import SfcBundler.Proofs.Plugin.Project
import SfcBundler.Proofs.Plugin.Relocation
import SfcBundler.Proofs.Plugin.Portability
import SfcBundler.Proofs.Walk.Lifecycle
import SfcBundler.Proofs.Plugin.AliasReach
import SfcBundler.Proofs.Plugin.Queries
import SfcBundler.Proofs.Command.Search
import SfcBundler.Proofs.Command.Handover
import SfcBundler.Proofs.Plugin.PartAccess
import SfcBundler.Proofs.Walk.Likeness
import SfcBundler.Proofs.Walk.Bystander
import SfcBundler.Proofs.Json.RoundTrip
import SfcBundler.Proofs.Command.Output
import SfcBundler.Proofs.Files.Ways
import SfcBundler.Proofs.Files.Subtree
import SfcBundler.Proofs.Command.Survey
import SfcBundler.Proofs.Command.GlobNames
import SfcBundler.Proofs.Command.Whereabouts
import SfcBundler.Proofs.Json.Comments
import SfcBundler.Proofs.Scan.Script
import SfcBundler.Proofs.Json.Ordered
import SfcBundler.Proofs.Plugin.AliasChoice
import SfcBundler.Proofs.Plugin.AliasTargets
import SfcBundler.Proofs.Json.Shape
import SfcBundler.Proofs.Component.Decoding
import SfcBundler.Proofs.Engine.Reports
import SfcBundler.Proofs.Engine.Startup
import SfcBundler.Proofs.Component.PartCodec
import SfcBundler.Proofs.Path.Relative
import SfcBundler.Proofs.Path.NormalForm
import SfcBundler.Proofs.Component.QueriedPath
import SfcBundler.Proofs.Plugin.EnvironmentDefaults
import SfcBundler.Proofs.Plugin.LineEnds
import SfcBundler.Proofs.Scan.Tail
import SfcBundler.Proofs.Text.Base64
import SfcBundler.Proofs.Plugin.SourceMaps
import SfcBundler.Proofs.Component.EntryText
import SfcBundler.Proofs.Plugin.AliasSource
import SfcBundler.Proofs.Plugin.Stages
import SfcBundler.Proofs.Plugin.StyleSource
