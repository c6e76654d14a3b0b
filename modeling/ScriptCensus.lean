import ScriptCensus.Automaton.Basic
import ScriptCensus.Automaton.Table
import ScriptCensus.Cli.Help
import ScriptCensus.Cli.Options
import ScriptCensus.Cli.Run
import ScriptCensus.Concrete.Basic
import ScriptCensus.Concrete.Conversion
import ScriptCensus.Concrete.Cursor
import ScriptCensus.Concrete.OfSubtree
import ScriptCensus.Concrete.Parse
import ScriptCensus.Config.Basic
import ScriptCensus.Config.Load
import ScriptCensus.Config.Settings
import ScriptCensus.Decimal.Shortest
import ScriptCensus.Discovery
import ScriptCensus.FileSystem.Basic
import ScriptCensus.FileSystem.Entry
import ScriptCensus.FileSystem.Path
import ScriptCensus.Glob.Basic
import ScriptCensus.Glob.Match
import ScriptCensus.Glob.Parse
import ScriptCensus.Glob.Set
import ScriptCensus.Grammar.JavaScript
import ScriptCensus.Grammar.JavaScript.Entries
import ScriptCensus.Grammar.JavaScript.GotoRows
import ScriptCensus.Grammar.JavaScript.Lexicon
import ScriptCensus.Grammar.JavaScript.Productions
import ScriptCensus.Grammar.JavaScript.States
import ScriptCensus.Grammar.JavaScript.Symbols
import ScriptCensus.Grammar.JavaScript.TokenRows
import ScriptCensus.Grammar.Tokens
import ScriptCensus.Grammar.TypeScript
import ScriptCensus.Grammar.TypeScript.Entries
import ScriptCensus.Grammar.TypeScript.GotoRows
import ScriptCensus.Grammar.TypeScript.Lexicon
import ScriptCensus.Grammar.TypeScript.Productions
import ScriptCensus.Grammar.TypeScript.States
import ScriptCensus.Grammar.TypeScript.Symbols
import ScriptCensus.Grammar.TypeScript.TokenRows
import ScriptCensus.Ignore.Entry
import ScriptCensus.Ignore.Files
import ScriptCensus.Ignore.Matcher
import ScriptCensus.Ignore.RuleSet
import ScriptCensus.Inference.Dispatch
import ScriptCensus.Inference.Error
import ScriptCensus.Inference.Payload
import ScriptCensus.Inference.Target
import ScriptCensus.Json.Error
import ScriptCensus.Json.Input
import ScriptCensus.Json.Reader
import ScriptCensus.Json.Shape
import ScriptCensus.Json.Value
import ScriptCensus.Json.Writer
import ScriptCensus.Lexical.Contextual
import ScriptCensus.Lexical.Lexicon
import ScriptCensus.Lexical.Pattern
import ScriptCensus.Main
import ScriptCensus.Parsing.Engine
import ScriptCensus.Parsing.Lookahead
import ScriptCensus.Parsing.Recovery
import ScriptCensus.Parsing.Reduction
import ScriptCensus.Parsing.Stack
import ScriptCensus.Parsing.Subtree
import ScriptCensus.Parsing.Versions
import ScriptCensus.Programs.Basic
import ScriptCensus.Programs.Escape
import ScriptCensus.Programs.Machine
import ScriptCensus.Programs.Shell.Run
import ScriptCensus.Programs.Shell.Script
import ScriptCensus.Programs.Tools
import ScriptCensus.Proofs.AssembledReports
import ScriptCensus.Proofs.ByteOrder
import ScriptCensus.Proofs.CommandLines
import ScriptCensus.Proofs.ConfigTexts
import ScriptCensus.Proofs.ConfiguredExcludes
import ScriptCensus.Proofs.ConvertedTrees
import ScriptCensus.Proofs.CursorLoop
import ScriptCensus.Proofs.Deliveries
import ScriptCensus.Proofs.DiscoveredFiles
import ScriptCensus.Proofs.Drafts
import ScriptCensus.Proofs.EffectiveSettings
import ScriptCensus.Proofs.FaithfulShapes
import ScriptCensus.Proofs.FieldRuns
import ScriptCensus.Proofs.Fields
import ScriptCensus.Proofs.FileOperations
import ScriptCensus.Proofs.FunctionPositions
import ScriptCensus.Proofs.FurtherExcludes
import ScriptCensus.Proofs.Gather
import ScriptCensus.Proofs.GlobLanguages
import ScriptCensus.Proofs.GlobLiterals
import ScriptCensus.Proofs.GlobSets
import ScriptCensus.Proofs.GlobTexts
import ScriptCensus.Proofs.Groupings
import ScriptCensus.Proofs.IgnoreLists
import ScriptCensus.Proofs.InnerGlobs
import ScriptCensus.Proofs.JsonOutcomes
import ScriptCensus.Proofs.JsonReadings
import ScriptCensus.Proofs.JsonShapes
import ScriptCensus.Proofs.JsonTokens
import ScriptCensus.Proofs.LeafTexts
import ScriptCensus.Proofs.LineOrder
import ScriptCensus.Proofs.LiteralEntries
import ScriptCensus.Proofs.NestedPrinting
import ScriptCensus.Proofs.NestingLimit
import ScriptCensus.Proofs.NodePlaces
import ScriptCensus.Proofs.PathPieces
import ScriptCensus.Proofs.Paths
import ScriptCensus.Proofs.Positions
import ScriptCensus.Proofs.PrintedLeaves
import ScriptCensus.Proofs.PrintedPlaces
import ScriptCensus.Proofs.PrunedDirectories
import ScriptCensus.Proofs.ReadShapes
import ScriptCensus.Proofs.RecoveredTokens
import ScriptCensus.Proofs.RelativePaths
import ScriptCensus.Proofs.RepeatedLines
import ScriptCensus.Proofs.ReportRoundTrip
import ScriptCensus.Proofs.ReportedFailures
import ScriptCensus.Proofs.Resolution
import ScriptCensus.Proofs.RootSpelling
import ScriptCensus.Proofs.RuleSets
import ScriptCensus.Proofs.Separators
import ScriptCensus.Proofs.ShapeAgreement
import ScriptCensus.Proofs.SkippedFunctions
import ScriptCensus.Proofs.SoundTrees
import ScriptCensus.Proofs.StoredReports
import ScriptCensus.Proofs.Surfaces
import ScriptCensus.Proofs.TextOrder
import ScriptCensus.Proofs.WholeDirectories
import ScriptCensus.Report.Basic
import ScriptCensus.Report.Store
import ScriptCensus.Scan.Basic
import ScriptCensus.Scan.Run
import ScriptCensus.Source.Language
import ScriptCensus.Source.Span
import ScriptCensus.Source.Text
import ScriptCensus.Source.Utf8
import ScriptCensus.Text.Blank
import ScriptCensus.Text.Packed
import ScriptCensus.Text.Printable
import ScriptCensus.Text.Quoted
import ScriptCensus.Tree.Basic
import ScriptCensus.Tree.FunctionKind
import ScriptCensus.Tree.Functions
import ScriptCensus.Tree.Printer
import ScriptCensus.Url.Basic
import ScriptCensus.Url.Host
import ScriptCensus.Url.Percent
import ScriptCensus.Url.Punycode
import ScriptCensus.Warning
