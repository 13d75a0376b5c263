import Amend.Autofix
import Amend.Call
import Amend.CommandLine.Commands
import Amend.CommandLine.Options
import Amend.Compiler
import Amend.Console
import Amend.Counts
import Amend.Diagnostic.Basic
import Amend.Diagnostic.Line
import Amend.Diff.Matching
import Amend.Diff.Unified
import Amend.Edit.Apply
import Amend.Edit.Basic
import Amend.Edit.Remap
import Amend.Emoji.Code
import Amend.Emoji.Flag
import Amend.Emoji.Names
import Amend.Emoji.People
import Amend.Fault
import Amend.FileKey
import Amend.FileTree
import Amend.Json
import Amend.Main
import Amend.Markup
import Amend.Notice
import Amend.Number.Decimal
import Amend.Number.Integer
import Amend.Number.Shortest
import Amend.Path
import Amend.Replay
import Amend.RoundLimit
import Amend.Rule.Basic
import Amend.Rule.Desk
import Amend.Rule.DotNotation
import Amend.Rule.ImplicitArgument
import Amend.Rule.Registry
import Amend.Rule.TypeInstantiation
import Amend.Seconds
import Amend.Session
import Amend.Settings.Basic
import Amend.Settings.Load
import Amend.Shadow
import Amend.ShellWords
import Amend.Source.Position
import Amend.Source.Snapshot
import Amend.StableSort
import Amend.Table
import Amend.Text.Basic
import Amend.Text.Blank
import Amend.Text.Columns
import Amend.Text.Crop
import Amend.Text.Digit
import Amend.Text.Lines
import Amend.Text.Printable
import Amend.Text.Quoted
import Amend.Text.Ranges
import Amend.Text.Tabs
import Amend.Text.Units
import Amend.Text.Utf8
import Amend.Text.Word
import Amend.Text.Wrap
import Amend.Toml.Document
import Amend.Toml.Parser
import Amend.Toml.Scalar
import Amend.Toml.Token
import Amend.Value
import Amend.Workbench
import Amend.Proofs.Batch
import Amend.Proofs.Deletions
import Amend.Proofs.AllOrNothing
import Amend.Proofs.CheckedTexts
import Amend.Proofs.ShadowUse
import Amend.Proofs.Settling
import Amend.Proofs.PassOrder
import Amend.Proofs.Spelling
import Amend.Proofs.OnlyDeletes
import Amend.Proofs.Arguments
import Amend.Proofs.CallRewrites
import Amend.Proofs.ReportLines
import Amend.Proofs.InstantiatedCalls
import Amend.Proofs.Occurrences
import Amend.Proofs.RestoredPaths
import Amend.Proofs.Grammar
import Amend.Proofs.Counting
import Amend.Proofs.Ledger
import Amend.Proofs.SettingsFiles
import Amend.Proofs.ArgumentDeletion
import Amend.Proofs.ArgumentLists
import Amend.Proofs.ArgumentBatches
import Amend.Proofs.Precedence
import Amend.Proofs.CallGrammar
import Amend.Proofs.Ownership
import Amend.Proofs.Receivers
import Amend.Proofs.CheckReports
import Amend.Proofs.ArgumentCuts
import Amend.Proofs.RepeatedFixes
import Amend.Proofs.CodeUnits
import Amend.Proofs.Registration
import Amend.Proofs.ShadowNames
