import BuildBlocks.Batch
import BuildBlocks.Block.Activation
import BuildBlocks.Block.Attribute
import BuildBlocks.Block.Directive
import BuildBlocks.Block.Extension
import BuildBlocks.Block.Lexeme
import BuildBlocks.Block.Marker
import BuildBlocks.Block.Registry
import BuildBlocks.Block.Span
import BuildBlocks.Block.Target
import BuildBlocks.Cli.Action
import BuildBlocks.Cli.Arguments
import BuildBlocks.Cli.Basic
import BuildBlocks.Cli.Command
import BuildBlocks.Cli.Stage
import BuildBlocks.Disk.Access
import BuildBlocks.Disk.Basic
import BuildBlocks.Disk.Resolve
import BuildBlocks.Disk.Walk
import BuildBlocks.Failure
import BuildBlocks.Fault
import BuildBlocks.Glob.Basic
import BuildBlocks.Glob.Wildcard
import BuildBlocks.Log
import BuildBlocks.Main
import BuildBlocks.Moment.Basic
import BuildBlocks.Moment.Bounds
import BuildBlocks.Moment.Duration
import BuildBlocks.Moment.Text
import BuildBlocks.Number.Double
import BuildBlocks.Number.Shortest
import BuildBlocks.Number.Whole
import BuildBlocks.Options.Basic
import BuildBlocks.Options.Check
import BuildBlocks.Options.Invalid
import BuildBlocks.Options.Report
import BuildBlocks.Outcome
import BuildBlocks.Page.Basic
import BuildBlocks.Page.Context
import BuildBlocks.Page.Expansion
import BuildBlocks.Page.Task
import BuildBlocks.Path
import BuildBlocks.Pattern.Escape
import BuildBlocks.Pattern.Flaw
import BuildBlocks.Pattern.Match
import BuildBlocks.Pattern.Parser
import BuildBlocks.Pattern.Reader
import BuildBlocks.Pattern.Syntax
import BuildBlocks.Proofs.AttributeNames
import BuildBlocks.Proofs.AttributeValues
import BuildBlocks.Proofs.BatchSchedules
import BuildBlocks.Proofs.BlockFaults
import BuildBlocks.Proofs.BlockTasks
import BuildBlocks.Proofs.BodyLocality
import BuildBlocks.Proofs.BracedPattern
import BuildBlocks.Proofs.Calls
import BuildBlocks.Proofs.ClosedLexemes
import BuildBlocks.Proofs.CommandActions
import BuildBlocks.Proofs.CommandDefaults
import BuildBlocks.Proofs.CommandEndings
import BuildBlocks.Proofs.CommentEnds
import BuildBlocks.Proofs.Concatenation
import BuildBlocks.Proofs.ContextInvariant
import BuildBlocks.Proofs.DiskAccess
import BuildBlocks.Proofs.DiskChanges
import BuildBlocks.Proofs.DiskGrowth
import BuildBlocks.Proofs.DiskWalks
import BuildBlocks.Proofs.DroppedBodies
import BuildBlocks.Proofs.ElementTree
import BuildBlocks.Proofs.Escapes
import BuildBlocks.Proofs.FailedJobs
import BuildBlocks.Proofs.FaultLocation
import BuildBlocks.Proofs.Filling
import BuildBlocks.Proofs.IncludeWalks
import BuildBlocks.Proofs.IndependentBlocks
import BuildBlocks.Proofs.IntegersInValues
import BuildBlocks.Proofs.JobAmongOthers
import BuildBlocks.Proofs.JobEscapes
import BuildBlocks.Proofs.JobScript
import BuildBlocks.Proofs.LexemeLocality
import BuildBlocks.Proofs.LineEnd
import BuildBlocks.Proofs.LineOffset
import BuildBlocks.Proofs.ListsAndResults
import BuildBlocks.Proofs.Margins
import BuildBlocks.Proofs.MarkerFields
import BuildBlocks.Proofs.MarkerLocality
import BuildBlocks.Proofs.MarkerPairs
import BuildBlocks.Proofs.MatchBounds
import BuildBlocks.Proofs.Nesting
import BuildBlocks.Proofs.Noninterference
import BuildBlocks.Proofs.OptionChecks
import BuildBlocks.Proofs.PathExpressions
import BuildBlocks.Proofs.Pool
import BuildBlocks.Proofs.Reach
import BuildBlocks.Proofs.RegistryHistory
import BuildBlocks.Proofs.RelyGuarantee
import BuildBlocks.Proofs.Script
import BuildBlocks.Proofs.Seam
import BuildBlocks.Proofs.Runners
import BuildBlocks.Proofs.SharedFolders
import BuildBlocks.Proofs.SpanTiling
import BuildBlocks.Proofs.StageFailures
import BuildBlocks.Proofs.StrictFilling
import BuildBlocks.Proofs.Stripping
import BuildBlocks.Proofs.SwitchFlags
import BuildBlocks.Proofs.Switches
import BuildBlocks.Proofs.TargetLists
import BuildBlocks.Proofs.TemplateLaw
import BuildBlocks.Proofs.TreeRendering
import BuildBlocks.Proofs.UntouchedPaths
import BuildBlocks.Proofs.Ways
import BuildBlocks.Settings.Basic
import BuildBlocks.Settings.EnvFile
import BuildBlocks.Settings.Integer
import BuildBlocks.Settings.Load
import BuildBlocks.Template.Expression
import BuildBlocks.Template.Interpolation
import BuildBlocks.Template.Segment
import BuildBlocks.Text.Base64
import BuildBlocks.Text.Basic
import BuildBlocks.Text.Case
import BuildBlocks.Text.CharacterName
import BuildBlocks.Text.Codec
import BuildBlocks.Text.Digit
import BuildBlocks.Text.Escape
import BuildBlocks.Text.Identifier
import BuildBlocks.Text.Lower
import BuildBlocks.Text.Printable
import BuildBlocks.Text.Quoted
import BuildBlocks.Text.Word
import BuildBlocks.Value.Attribute
import BuildBlocks.Value.Basic
import BuildBlocks.Value.Feature
import BuildBlocks.Value.Json
import BuildBlocks.Value.Kind
import BuildBlocks.Value.Lookup
import BuildBlocks.Value.Members
import BuildBlocks.Value.Render
import BuildBlocks.Yaml.Atom
import BuildBlocks.Yaml.Collection
import BuildBlocks.Yaml.Lexer
import BuildBlocks.Yaml.Node
import BuildBlocks.Yaml.Scalar
import BuildBlocks.Yaml.Tag
import BuildBlocks.Yaml.Token
import BuildBlocks.Yaml.Value
