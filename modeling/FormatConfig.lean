import FormatConfig.Path.Basic
import FormatConfig.Path.Lexical
import FormatConfig.Fs.Error
import FormatConfig.Fs.Basic
import FormatConfig.Options
import FormatConfig.SourceFile
import FormatConfig.Glob.Pattern
import FormatConfig.Glob.Match
import FormatConfig.Error
import FormatConfig.Lookup
import FormatConfig.Fs.Listing
import FormatConfig.InitFile
import FormatConfig.Text.Unicode
import FormatConfig.Text.Printable
import FormatConfig.Text.BlankLines
import FormatConfig.Peg.Engine
import FormatConfig.Peg.Report
import FormatConfig.Json5.Grammar
import FormatConfig.Json5.Number
import FormatConfig.Json5.Document
import FormatConfig.Json5.Value
import FormatConfig.JsonFile
import FormatConfig.Lint.Rules
import FormatConfig.EditorConfig.Settings
import FormatConfig.EditorConfig.Options
import FormatConfig.Pipeline
import FormatConfig.Text.Quote
import FormatConfig.Float64
import FormatConfig.Toml.Syntax
import FormatConfig.Toml.Reader
import FormatConfig.Toml.Grammar
import FormatConfig.Toml.Tables
import FormatConfig.Toml.Values
import FormatConfig.Toml.Document
import FormatConfig.Toml.Report
import FormatConfig.Toml.Decode
import FormatConfig.Baseline
import FormatConfig.Glob.Expand
import FormatConfig.Manifest.Config
import FormatConfig.Manifest.Select
import FormatConfig.Manifest.Resolve
import FormatConfig.Ignore.Glob
import FormatConfig.Ignore.Rules
import FormatConfig.Ignore.Walk
import FormatConfig.Text.LineDiff
import FormatConfig.Cli.Arguments
import FormatConfig.Cli.Run
import FormatConfig.Main
import FormatConfig.Proofs.BlankLines
import FormatConfig.Proofs.PathJoin
import FormatConfig.Proofs.PathParent
import FormatConfig.Proofs.LexicalNormalForm
import FormatConfig.Proofs.ConfigLookup
import FormatConfig.Proofs.WildcardMatch
import FormatConfig.Proofs.OptionSources
import FormatConfig.Proofs.CollapsedTexts
import FormatConfig.Proofs.CollapsedReads
import FormatConfig.Proofs.ByteLines
import FormatConfig.Proofs.CollapsedWalk
import FormatConfig.Proofs.RunEffects
import FormatConfig.Proofs.CollectedFiles
import FormatConfig.Proofs.CheckFlag
import FormatConfig.Proofs.FixRun
import FormatConfig.Proofs.RunAccounting
import FormatConfig.Proofs.RuleEffects
import FormatConfig.Proofs.GlobPatterns
import FormatConfig.Proofs.EditorSections
import FormatConfig.Proofs.GlobExpansion
import FormatConfig.Proofs.BlankLineCount
import FormatConfig.Proofs.WalkTermination
import FormatConfig.Proofs.HeaderSlices
import FormatConfig.Proofs.GlobSteps
