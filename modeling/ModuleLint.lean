import ModuleLint.Batch.Basic
import ModuleLint.Batch.RunId
import ModuleLint.Batch.Runner
import ModuleLint.Batch.Schedule
import ModuleLint.Command.Flags
import ModuleLint.Command.Invocation
import ModuleLint.Command.Run
import ModuleLint.Data.Basic
import ModuleLint.Data.Json
import ModuleLint.Data.Yaml
import ModuleLint.Decimal.Nearest
import ModuleLint.Decimal.Shortest
import ModuleLint.Directory
import ModuleLint.Distinct
import ModuleLint.Document.Basic
import ModuleLint.Document.Decode
import ModuleLint.Document.Draft
import ModuleLint.Document.Loader
import ModuleLint.Document.Reader
import ModuleLint.Document.Schema
import ModuleLint.Document.SchemaText
import ModuleLint.Duration
import ModuleLint.Facts.CallGraph
import ModuleLint.Facts.Routines
import ModuleLint.Facts.Variables
import ModuleLint.Flow.Analysis
import ModuleLint.Flow.Graph
import ModuleLint.Flow.IdSet
import ModuleLint.Flow.Lowering
import ModuleLint.Flow.Reaching
import ModuleLint.Json.Basic
import ModuleLint.Json.Quoted
import ModuleLint.Json.Reader
import ModuleLint.Location
import ModuleLint.Main
import ModuleLint.Report.Document
import ModuleLint.Report.Format
import ModuleLint.Report.Plain
import ModuleLint.Report.Render
import ModuleLint.Rule.Basic
import ModuleLint.Rule.Catalog
import ModuleLint.Rule.Checker
import ModuleLint.Rule.Engine
import ModuleLint.Rule.RoutineShape
import ModuleLint.Rule.Severity
import ModuleLint.Rule.Usage
import ModuleLint.Rule.VariableNames
import ModuleLint.Rule.Violation
import ModuleLint.Settings.Assignment
import ModuleLint.Settings.Basic
import ModuleLint.Settings.Conversion
import ModuleLint.Settings.FileFormat
import ModuleLint.Settings.Load
import ModuleLint.Settings.Value
import ModuleLint.Size
import ModuleLint.Telemetry.Exposition
import ModuleLint.Telemetry.Headers
import ModuleLint.Telemetry.Level
import ModuleLint.Telemetry.Log
import ModuleLint.Telemetry.Metrics
import ModuleLint.Telemetry.Policy
import ModuleLint.Telemetry.Record
import ModuleLint.Telemetry.Setup
import ModuleLint.Terminal.Style
import ModuleLint.Terminal.Table
import ModuleLint.Text.Blank
import ModuleLint.Text.Bytes
import ModuleLint.Text.Case
import ModuleLint.Text.CaseTable
import ModuleLint.Text.CodePoint
import ModuleLint.Text.EditDistance
import ModuleLint.Text.Grouped
import ModuleLint.Text.LetterTable
import ModuleLint.Text.Lines
import ModuleLint.Text.NaturalOrder
import ModuleLint.Text.Number
import ModuleLint.Text.PrintableTable
import ModuleLint.Text.Quoted
import ModuleLint.Text.Search
import ModuleLint.Text.Truth
import ModuleLint.Text.Width
import ModuleLint.Text.WidthTable
import ModuleLint.Toml.Document
import ModuleLint.Toml.Number
import ModuleLint.Toml.Outline
import ModuleLint.Toml.Text
import ModuleLint.Tree.Basic
import ModuleLint.Tree.Outline
import ModuleLint.Walk.Basic
import ModuleLint.Walk.Context
import ModuleLint.Walk.FanOut
import ModuleLint.Word
import ModuleLint.Yaml.Character
import ModuleLint.Yaml.Cursor
import ModuleLint.Yaml.Moment
import ModuleLint.Yaml.Node
import ModuleLint.Yaml.Resolution
import ModuleLint.Yaml.Scalar
import ModuleLint.Yaml.Token
import ModuleLint.Yaml.Word
import ModuleLint.Proofs.Flow.Script
import ModuleLint.Proofs.Flow.Construction
import ModuleLint.Proofs.Flow.LoweringSteps
import ModuleLint.Proofs.Flow.RoutineGraph
import ModuleLint.Proofs.Flow.Paths
import ModuleLint.Proofs.Flow.Simulation
import ModuleLint.Proofs.Flow.Executions
import ModuleLint.Proofs.Flow.Reachability
import ModuleLint.Proofs.Flow.Replay
import ModuleLint.Proofs.Flow.Solution
import ModuleLint.Proofs.Flow.ReachingUses
import ModuleLint.Proofs.Flow.ExitPaths
import ModuleLint.Proofs.Flow.Occurrences
import ModuleLint.Proofs.Flow.DeadStores
import ModuleLint.Proofs.Flow.ModuleFindings
import ModuleLint.Proofs.Flow.UndefinedUses
import ModuleLint.Proofs.Walk.Visits
import ModuleLint.Proofs.Walk.Restoration
import ModuleLint.Proofs.Walk.Isolation
import ModuleLint.Proofs.Rule.Looks
import ModuleLint.Proofs.Rule.SharedWalk
import ModuleLint.Proofs.Rule.Configuration
import ModuleLint.Proofs.Batch.Interleavings
import ModuleLint.Proofs.Rule.Failures
import ModuleLint.Proofs.Document.Reading
import ModuleLint.Proofs.Document.SchemaAgreement
import ModuleLint.Proofs.Safety.Careful
import ModuleLint.Proofs.Safety.Lowering
import ModuleLint.Proofs.Safety.Reaching
import ModuleLint.Proofs.Safety.Rules
import ModuleLint.Proofs.Safety.Walk
import ModuleLint.Proofs.Safety.Analysis
import ModuleLint.Proofs.Facts.CallPairs
import ModuleLint.Proofs.Flow.MentionSites
import ModuleLint.Proofs.Facts.Sessions
import ModuleLint.Proofs.Telemetry.Counters
import ModuleLint.Proofs.Batch.DetailedSchedule
import ModuleLint.Proofs.Batch.Measurements
import ModuleLint.Proofs.Flow.Convergence
import ModuleLint.Proofs.Walk.Addresses
import ModuleLint.Proofs.Walk.Completeness
import ModuleLint.Proofs.Walk.Ancestors
import ModuleLint.Proofs.Command.ExitCode
import ModuleLint.Proofs.Text.EditScripts
import ModuleLint.Proofs.Text.Nearest
import ModuleLint.Proofs.Text.ByteOrder
import ModuleLint.Proofs.Flow.Shape
import ModuleLint.Proofs.Facts.RoutineNotes
import ModuleLint.Proofs.Facts.RoutineReports
import ModuleLint.Proofs.Facts.CallAttribution
import ModuleLint.Proofs.Rule.Faults
import ModuleLint.Proofs.Document.Denotation
import ModuleLint.Proofs.Document.Origins
import ModuleLint.Proofs.Document.WellFormed
import ModuleLint.Proofs.Document.Accounting
import ModuleLint.Proofs.StableSort
import ModuleLint.Proofs.Facts.MostCalled
import ModuleLint.Proofs.Text.Splitting
import ModuleLint.Proofs.Telemetry.HeaderTexts
import ModuleLint.Proofs.Flow.BlockSummaries
import ModuleLint.Proofs.Rule.StatementLines
import ModuleLint.Proofs.Document.SourceLines
import ModuleLint.Proofs.Flow.MarkedBlocks
import ModuleLint.Proofs.Walk.ScopeReleases
