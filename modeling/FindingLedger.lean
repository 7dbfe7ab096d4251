import FindingLedger.Baseline.Basic
import FindingLedger.Baseline.Diff
import FindingLedger.Baseline.Document
import FindingLedger.Baseline.Load
import FindingLedger.Calendar
import FindingLedger.Command.Help
import FindingLedger.Command.Line
import FindingLedger.Command.Progress
import FindingLedger.Command.Reach
import FindingLedger.Command.Report
import FindingLedger.Command.Run
import FindingLedger.Command.Spec
import FindingLedger.Console.Markup
import FindingLedger.Console.Panel
import FindingLedger.Console.Symbols
import FindingLedger.Console.Table
import FindingLedger.Datum
import FindingLedger.Datum.SetOrder
import FindingLedger.Decimal.Places
import FindingLedger.Decimal.Read
import FindingLedger.Decimal.Shortest
import FindingLedger.Decimal.Whole
import FindingLedger.FileTree
import FindingLedger.FileTree.Change
import FindingLedger.Finding
import FindingLedger.Journal.Basic
import FindingLedger.Journal.Record
import FindingLedger.Json.Read
import FindingLedger.Json.Token
import FindingLedger.Json.Write
import FindingLedger.Keyed
import FindingLedger.Main
import FindingLedger.Note
import FindingLedger.Path
import FindingLedger.Results
import FindingLedger.RuleId
import FindingLedger.Settings.Basic
import FindingLedger.Settings.Check
import FindingLedger.Settings.Environment
import FindingLedger.Settings.Flags
import FindingLedger.Settings.Load
import FindingLedger.Settings.Overlay
import FindingLedger.Storage
import FindingLedger.Text.Base64
import FindingLedger.Text.Blank
import FindingLedger.Text.CaseMap
import FindingLedger.Text.CodePage
import FindingLedger.Text.Digit
import FindingLedger.Text.Numeral
import FindingLedger.Text.Printable
import FindingLedger.Text.Quoted
import FindingLedger.Text.Screen
import FindingLedger.Text.Similarity
import FindingLedger.Text.Stream
import FindingLedger.Text.Template
import FindingLedger.Text.Utf8
import FindingLedger.Text.Width
import FindingLedger.Xml.Content
import FindingLedger.Xml.Declaration
import FindingLedger.Xml.Doctype
import FindingLedger.Xml.Document
import FindingLedger.Xml.Element
import FindingLedger.Xml.Entity
import FindingLedger.Xml.Fault
import FindingLedger.Xml.Name
import FindingLedger.Xml.Namespace
import FindingLedger.Xml.Scan
import FindingLedger.Xml.Source
import FindingLedger.Yaml.Build
import FindingLedger.Yaml.Character
import FindingLedger.Yaml.Cursor
import FindingLedger.Yaml.Document
import FindingLedger.Yaml.Endless
import FindingLedger.Yaml.Fault
import FindingLedger.Yaml.Merge
import FindingLedger.Yaml.Node
import FindingLedger.Yaml.ScalarText
import FindingLedger.Yaml.Source
import FindingLedger.Yaml.Tag
import FindingLedger.Yaml.Token
import FindingLedger.Yaml.TokenStream
import FindingLedger.Yaml.Value
import FindingLedger.Yaml.Write
import FindingLedger.Proofs.Baseline.Content
import FindingLedger.Proofs.Baseline.Partition
import FindingLedger.Proofs.Baseline.Attempt
import FindingLedger.Proofs.Text.Utf8
import FindingLedger.Proofs.Xml.Source
import FindingLedger.Proofs.Text.Numeral
import FindingLedger.Proofs.Xml.Name
import FindingLedger.Proofs.Xml.Spelling
import FindingLedger.Proofs.Xml.Value
import FindingLedger.Proofs.Xml.Tag
import FindingLedger.Proofs.Xml.Written
import FindingLedger.Proofs.Xml.Reading
import FindingLedger.Proofs.Baseline.Format
import FindingLedger.Proofs.FileTree.Way
import FindingLedger.Proofs.FileTree.Sound
import FindingLedger.Proofs.FileTree.Written
import FindingLedger.Proofs.Finding.Class
import FindingLedger.Proofs.FileTree.Below
import FindingLedger.Proofs.Baseline.Removal
import FindingLedger.Proofs.Baseline.Retouch
import FindingLedger.Proofs.Xml.Address
import FindingLedger.Proofs.Baseline.Migration
import FindingLedger.Proofs.Baseline.Offence
import FindingLedger.Proofs.Journal.Upkeep
import FindingLedger.Proofs.Journal.Delivery
import FindingLedger.Proofs.Json.Token
import FindingLedger.Proofs.Json.Value
import FindingLedger.Proofs.Journal.Line
import FindingLedger.Proofs.Path
import FindingLedger.Proofs.Path.Walk
import FindingLedger.Proofs.Path.Route
import FindingLedger.Proofs.Settings.Sections
import FindingLedger.Proofs.Decimal.Whole
import FindingLedger.Proofs.Datum.Sameness
import FindingLedger.Proofs.Datum.Lookup
import FindingLedger.Proofs.Datum.Overlay
import FindingLedger.Proofs.Datum.Entries
import FindingLedger.Proofs.Yaml.Keys
import FindingLedger.Proofs.Yaml.Unfolding
import FindingLedger.Proofs.Settings.Raw
import FindingLedger.Proofs.Settings.Plain
import FindingLedger.Proofs.Settings.Sheet
import FindingLedger.Proofs.Settings.Variables
import FindingLedger.Proofs.Settings.Flags
import FindingLedger.Proofs.Settings.Precedence
import FindingLedger.Proofs.Settings.Spelling
import FindingLedger.Proofs.Settings.Hiding
import FindingLedger.Proofs.Settings.Written
import FindingLedger.Proofs.Command.Line
import FindingLedger.Proofs.Command.Call
import FindingLedger.Proofs.Baseline.Likeness
import FindingLedger.Proofs.Baseline.Listing
import FindingLedger.Proofs.Command.Course
import FindingLedger.Proofs.Command.Ending
import FindingLedger.Proofs.Command.Options
import FindingLedger.Proofs.Command.Repeat
import FindingLedger.Proofs.Command.Gate
import FindingLedger.Proofs.Console.Names
import FindingLedger.Proofs.Console.Escape
import FindingLedger.Proofs.Console.Shown
import FindingLedger.Proofs.Command.NewLines
import FindingLedger.Proofs.Command.Initial
import FindingLedger.Proofs.Text.CaseMap
import FindingLedger.Proofs.Results
import FindingLedger.Proofs.Results.Written
import FindingLedger.Proofs.Command.Refusal
import FindingLedger.Proofs.Settings.Origin
import FindingLedger.Proofs.Baseline.Configured
import FindingLedger.Proofs.Settings.Given
import FindingLedger.Proofs.Command.Flags
import FindingLedger.Proofs.Command.Showing
import FindingLedger.Proofs.Journal.Tending
import FindingLedger.Proofs.Command.Frame
