import CycleLog.Clock.Date
import CycleLog.Clock.Stamp
import CycleLog.CommandLine
import CycleLog.Config.Basic
import CycleLog.Config.Load
import CycleLog.Decimal.Binary64
import CycleLog.Decimal.Layout
import CycleLog.Decimal.Shortest
import CycleLog.Files
import CycleLog.Hook
import CycleLog.Journal
import CycleLog.Json.Direct
import CycleLog.Json.Number
import CycleLog.Json.Reader
import CycleLog.Json.Shape
import CycleLog.Json.Value
import CycleLog.Json.Writer
import CycleLog.Main
import CycleLog.Page.Block
import CycleLog.Page.Client
import CycleLog.Page.Wire
import CycleLog.Pattern.Basic
import CycleLog.Pattern.Bracket
import CycleLog.Pattern.Class
import CycleLog.Pattern.Escape
import CycleLog.Pattern.Name
import CycleLog.Pattern.Reader
import CycleLog.Pattern.Search
import CycleLog.Pattern.Size
import CycleLog.Phase.FileKind
import CycleLog.Phase.Reasoning
import CycleLog.Phase.Sorting
import CycleLog.Phase.TestName
import CycleLog.Problem
import CycleLog.Program
import CycleLog.Proofs.Bounds
import CycleLog.Proofs.CodeSpan
import CycleLog.Proofs.Distinct
import CycleLog.Proofs.FirstTouch
import CycleLog.Proofs.History
import CycleLog.Proofs.Latest
import CycleLog.Proofs.Privacy
import CycleLog.Proofs.ReadBack
import CycleLog.Proofs.Reporting
import CycleLog.Proofs.Sorting
import CycleLog.Proofs.Sending
import CycleLog.Proofs.Success
import CycleLog.Proofs.Window
import CycleLog.Proofs.Wire
import CycleLog.Section.CodeSpan
import CycleLog.Section.Render
import CycleLog.Section.Settings
import CycleLog.Template.Argument
import CycleLog.Template.Basic
import CycleLog.Template.Datum
import CycleLog.Template.Expression
import CycleLog.Template.Filter
import CycleLog.Template.Numeric
import CycleLog.Template.Operation
import CycleLog.Template.Reader
import CycleLog.Template.Render
import CycleLog.Template.Sequence
import CycleLog.Template.Test
import CycleLog.Template.Token
import CycleLog.Template.Wording
import CycleLog.Text.Blank
import CycleLog.Text.Boundary
import CycleLog.Text.Case
import CycleLog.Text.Category
import CycleLog.Text.Cut
import CycleLog.Text.Lines
import CycleLog.Text.Quoted
import CycleLog.Text.Scan
import CycleLog.Text.Script
import CycleLog.Text.WordChar
import CycleLog.Toml.Document
import CycleLog.Toml.Scalar
import CycleLog.Toml.Text
import CycleLog.Tool.Call
import CycleLog.Tool.Event
import CycleLog.Tool.Output
import CycleLog.Tool.Path
import CycleLog.Transcript.Entry
import CycleLog.Transcript.Reader
import CycleLog.Transcript.Window
import CycleLog.Trigger.Basic
import CycleLog.Trigger.Passed
import CycleLog.Trigger.Subject
import CycleLog.Url
import CycleLog.Proofs.Printing
import CycleLog.Proofs.Accounting
import CycleLog.Proofs.Decoding
import CycleLog.Proofs.Splitting
import CycleLog.Proofs.Layout
import CycleLog.Proofs.Recognition
import CycleLog.Proofs.Scanning
import CycleLog.Proofs.Subject
import CycleLog.Proofs.Announcing
import CycleLog.Proofs.SameName
import CycleLog.Proofs.Summary
import CycleLog.Proofs.Growing
import CycleLog.Proofs.LineByLine
import CycleLog.Proofs.Torn
import CycleLog.Proofs.Commands
import CycleLog.Proofs.Packaging
import CycleLog.Proofs.Addressing
import CycleLog.Proofs.Finding
import CycleLog.Proofs.Grouping
import CycleLog.Proofs.Enclosing
import CycleLog.Proofs.Bracketing
import CycleLog.Proofs.Parenthesizing
import CycleLog.Proofs.Anchoring
import CycleLog.Proofs.LineEnds
import CycleLog.Proofs.Calendar
import CycleLog.Proofs.Stamping
import CycleLog.Proofs.Tables
import CycleLog.Proofs.Paths
import CycleLog.Proofs.Overlay
import CycleLog.Proofs.Loading
