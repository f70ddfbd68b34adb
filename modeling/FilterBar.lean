import FilterBar.Calendar
import FilterBar.Catalog
import FilterBar.Catalog.Load
import FilterBar.CommandLine
import FilterBar.Console
import FilterBar.Cut
import FilterBar.Decimal.Nearest
import FilterBar.Decimal.Shortest
import FilterBar.Disk
import FilterBar.Document
import FilterBar.Editor
import FilterBar.Fault
import FilterBar.Host
import FilterBar.Main
import FilterBar.Match
import FilterBar.Program
import FilterBar.Proofs.Document.Completion
import FilterBar.Proofs.Document.Diagnostic
import FilterBar.Proofs.Document.Fragment
import FilterBar.Proofs.Document.Help
import FilterBar.Proofs.Document.Offset
import FilterBar.Proofs.Document.Place
import FilterBar.Proofs.Document.Problem
import FilterBar.Proofs.Editor.GapBuffer
import FilterBar.Proofs.Editor.Highlight
import FilterBar.Proofs.Editor.Invariant
import FilterBar.Proofs.Editor.Removal
import FilterBar.Proofs.Editor.View
import FilterBar.Proofs.Match
import FilterBar.Proofs.Match.Narrowing
import FilterBar.Proofs.Match.Ranking
import FilterBar.Proofs.Query.Canonical
import FilterBar.Proofs.Query.Join
import FilterBar.Proofs.Query.Pattern
import FilterBar.Proofs.Query.Placement
import FilterBar.Proofs.Query.Quoting
import FilterBar.Proofs.Query.Rejoin
import FilterBar.Proofs.Query.Runs
import FilterBar.Proofs.Query.Scanner
import FilterBar.Proofs.Query.Selection
import FilterBar.Proofs.Query.Span
import FilterBar.Proofs.Query.Template
import FilterBar.Proofs.Query.Tidy
import FilterBar.Proofs.Query.Value
import FilterBar.Proofs.Session.Accept
import FilterBar.Proofs.Session.Agreement
import FilterBar.Proofs.Session.Completion
import FilterBar.Proofs.Session.Dispatch
import FilterBar.Proofs.Session.Echo
import FilterBar.Proofs.Session.EditChip
import FilterBar.Proofs.Session.Emission
import FilterBar.Proofs.Session.Highlight
import FilterBar.Proofs.Session.Idle
import FilterBar.Proofs.Session.Intake
import FilterBar.Proofs.Session.Key
import FilterBar.Proofs.Session.Panel
import FilterBar.Proofs.Session.Prompt
import FilterBar.Proofs.Session.Run
import FilterBar.Proofs.Settings.Environment
import FilterBar.Proofs.Settings.Logging
import FilterBar.Proofs.Settings.Restart
import FilterBar.Proofs.Suggestion.Form
import FilterBar.Proofs.Suggestion.Growth
import FilterBar.Proofs.Suggestion.Limit
import FilterBar.Proofs.Suggestion.Recall
import FilterBar.Proofs.Suggestion.Repetition
import FilterBar.Proofs.Text.Case
import FilterBar.Query.Filter
import FilterBar.Query.Quoting
import FilterBar.Query.Selection
import FilterBar.Query.Summary
import FilterBar.Query.Token
import FilterBar.Scatter
import FilterBar.Service
import FilterBar.Session
import FilterBar.Session.Prompt
import FilterBar.Settings
import FilterBar.Suggestion
import FilterBar.Suggestion.Canonical
import FilterBar.Suggestion.Completion
import FilterBar.Text
import FilterBar.Text.Case
import FilterBar.Text.CaseTable
import FilterBar.Text.DigitTable
import FilterBar.Text.Numeral
import FilterBar.Text.Printable
import FilterBar.Text.Quoted
import FilterBar.Value
import FilterBar.Yaml.Base64
import FilterBar.Yaml.Cursor
import FilterBar.Yaml.Failure
import FilterBar.Yaml.Merge
import FilterBar.Yaml.Node
import FilterBar.Yaml.Number
import FilterBar.Yaml.Property
import FilterBar.Yaml.Read
import FilterBar.Yaml.Scalar.Block
import FilterBar.Yaml.Scalar.Plain
import FilterBar.Yaml.Scalar.Quoted
import FilterBar.Yaml.Tag
import FilterBar.Yaml.Timestamp
import FilterBar.Yaml.Token
