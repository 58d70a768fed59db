import TableDdl.Column.List
import TableDdl.Column.Name
import TableDdl.Platform.Layout
import TableDdl.Platform.Markup
import TableDdl.Platform.Markup.Emoji
import TableDdl.Platform.Markup.EmojiNames
import TableDdl.Platform.Markup.Literal
import TableDdl.Platform.Markup.Style
import TableDdl.Command.Request
import TableDdl.Command.Run
import TableDdl.Compile
import TableDdl.Failure
import TableDdl.File.Name
import TableDdl.File.Path
import TableDdl.File.System
import TableDdl.Json.Basic
import TableDdl.Json.Complaint
import TableDdl.Json.Number
import TableDdl.Json.Quotation
import TableDdl.Json.Reader
import TableDdl.Json.Token
import TableDdl.Json.Writer
import TableDdl.Log.Event
import TableDdl.Log.Level
import TableDdl.Main
import TableDdl.Mapping
import TableDdl.Number.Binary64
import TableDdl.Number.Numeral
import TableDdl.Number.Shortest
import TableDdl.Proofs.Column.Plain
import TableDdl.Proofs.Column.Unambiguous
import TableDdl.Proofs.Platform.Markup
import TableDdl.Proofs.Command.Run
import TableDdl.Proofs.Command.Source
import TableDdl.Proofs.Document.Agreement
import TableDdl.Proofs.Document.ReadBack
import TableDdl.Proofs.File.Path
import TableDdl.Proofs.File.System
import TableDdl.Proofs.Json.Quotation
import TableDdl.Proofs.Json.ReadValue
import TableDdl.Proofs.Json.Regular
import TableDdl.Proofs.Json.RoundTrip
import TableDdl.Proofs.Json.Written
import TableDdl.Proofs.Number.Range
import TableDdl.Proofs.Number.Value
import TableDdl.Proofs.Outcome
import TableDdl.Proofs.Schema.DocumentOutcome
import TableDdl.Proofs.Schema.Encoding
import TableDdl.Proofs.Schema.FirstFault
import TableDdl.Proofs.Schema.Grammar
import TableDdl.Proofs.Schema.Level
import TableDdl.Proofs.Schema.OwnFault
import TableDdl.Proofs.Schema.Substitution
import TableDdl.Proofs.Table.Definition
import TableDdl.Proofs.Table.Requested
import TableDdl.Proofs.Text.Digits
import TableDdl.Proofs.Text.Printed
import TableDdl.Proofs.Text.Utf8
import TableDdl.Schema.Construct
import TableDdl.Schema.Fault
import TableDdl.Schema.FieldType
import TableDdl.Schema.Keyword
import TableDdl.Schema.OfJson
import TableDdl.Schema.Overlay
import TableDdl.Settings.Basic
import TableDdl.Platform.Dotenv
import TableDdl.Table.Definition
import TableDdl.Table.Statement
import TableDdl.Text.Basic
import TableDdl.Text.Case
import TableDdl.Platform.Cells
import TableDdl.Text.CharClass
import TableDdl.Platform.ControlSequence
import TableDdl.Text.Quoted
import TableDdl.Text.Utf8
import TableDdl.Validation
import TableDdl.Proofs.Schema.Annotations
import TableDdl.Proofs.Json.LongInteger
import TableDdl.Proofs.Platform.Escape
import TableDdl.Proofs.Platform.Label
import TableDdl.Proofs.Document.Refusal
import TableDdl.Proofs.Table.Lifetime
import TableDdl.Proofs.Document.Bytes
import TableDdl.Proofs.Document.MappingFile
import TableDdl.Proofs.Document.DeclarationOrder
import TableDdl.Proofs.Document.DecimalParameters
import TableDdl.Proofs.Text.Case
import TableDdl.Proofs.Column.Sanitized
import TableDdl.Proofs.Text.Literal
import TableDdl.Proofs.Table.Literals
import TableDdl.Proofs.Json.AnyText
import TableDdl.Proofs.Schema.OverlayCheck
import TableDdl.Proofs.Document.CheckedOverlay
import TableDdl.Proofs.Log.Threshold
import TableDdl.Proofs.Document.Events
import TableDdl.Command.Toolkit
import TableDdl.Platform.Arguments
import TableDdl.Platform.Encoding
import TableDdl.Platform.LogLine
import TableDdl.Platform.Plain
import TableDdl.Platform.Report
import TableDdl.Platform.Variables
import TableDdl.Proofs.Command.Toolkit
import TableDdl.Proofs.Platform.ControlSequence
import TableDdl.Proofs.Platform.Arguments
import TableDdl.Proofs.Platform.Plain
import TableDdl.Proofs.Command.SameColumns
import TableDdl.Proofs.Command.FailedRun
import TableDdl.Proofs.Command.Reading
import TableDdl.Proofs.Command.Report
